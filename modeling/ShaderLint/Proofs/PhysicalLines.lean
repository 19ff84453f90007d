/-
Physical lines, one at a time.

The splitter carries the finished lines and the current one along, both backwards. This file takes
the two accumulators out: a text is either one line without a line feed, or such a line, a line
feed and another text, and the splitter follows that shape (`lines_of_not_mem`,
`lines_append_lineFeed`). Every law about a whole source is then an induction on its lines,
`lineInduction`, with the same two cases.

A carriage return before the line feed goes with the break. `withoutReturn` says what is left of
the line, and nothing else is ever taken from it.
-/
import Mathlib.Data.List.Basic
import ShaderLint.Text.Line

set_option autoImplicit false

namespace ShaderLint.Text

/-! ## The accumulators -/

/-- The finished lines come out in front of the rest. -/
theorem splitLines_done (cs current : List Char) (done : List (List Char)) :
    splitLines done current cs = done.reverse ++ splitLines [] current cs := by
  induction cs generalizing current done with
  | nil => simp only [splitLines, List.reverse_cons, List.reverse_nil, List.nil_append]
  | cons c cs ih =>
    rw [splitLines, splitLines]
    by_cases hc : c = '\n'
    · rw [if_pos hc, if_pos hc, ih _ ((dropReturn current).reverse :: done),
        ih _ [(dropReturn current).reverse], List.reverse_cons, List.append_assoc]
      rfl
    · rw [if_neg hc, if_neg hc]
      exact ih (c :: current) done

/-- Characters other than the line feed are gathered into the current line. -/
theorem splitLines_gather {l : List Char} (hl : '\n' ∉ l) (current cs : List Char) :
    splitLines [] current (l ++ cs) = splitLines [] (l.reverse ++ current) cs := by
  induction l generalizing current with
  | nil => rfl
  | cons c l ih =>
    have hc : c ≠ '\n' := (List.ne_of_not_mem_cons hl).symm
    have hrest : '\n' ∉ l := List.not_mem_of_not_mem_cons hl
    rw [List.cons_append, splitLines, if_neg hc, ih hrest, List.reverse_cons, List.append_assoc]
    rfl

/-! ## One line, and the lines after it -/

/-- A line that a line feed ends, without the carriage return that belongs to the break. -/
def withoutReturn (l : List Char) : List Char := (dropReturn l.reverse).reverse

/-- One carriage return is all that is ever taken off. -/
theorem withoutReturn_cases (l : List Char) :
    withoutReturn l = l ∨ l = withoutReturn l ++ ['\r'] := by
  unfold withoutReturn
  -- the break looks at the line from its end
  rcases hl : l.reverse with _ | ⟨c, front⟩
  · left
    rw [dropReturn, ← hl, List.reverse_reverse]
  · rw [dropReturn]
    by_cases hc : c = '\r'
    · right
      rw [if_pos hc, ← List.reverse_reverse l, hl, List.reverse_cons, hc]
    · left
      rw [if_neg hc, ← hl, List.reverse_reverse]

/-- A text without a line feed is one line, a carriage return at its end included. -/
theorem lines_of_not_mem {l : List Char} (hl : '\n' ∉ l) : lines l = [l] := by
  have h := splitLines_gather hl [] []
  rw [List.append_nil, List.append_nil] at h
  rw [lines, h, splitLines, List.reverse_reverse]
  rfl

/-- **The first line feed ends the first line.** What follows it is split as a text of its own. -/
theorem lines_append_lineFeed {l : List Char} (hl : '\n' ∉ l) (cs : List Char) :
    lines (l ++ '\n' :: cs) = withoutReturn l :: lines cs := by
  rw [lines, splitLines_gather hl, splitLines, if_pos rfl, splitLines_done, List.append_nil]
  rfl

/-- The first break comes after the first line, and then the other lines as they are joined. -/
theorem joinLines_cons (first : List Char) (b : Break) (line : List Char)
    (rest : List (Break × List Char)) :
    joinLines first ((b, line) :: rest) = first ++ (b.chars ++ joinLines line rest) := by
  rw [joinLines, List.flatMap_cons, joinLines, List.append_assoc b.chars]

/-- **Induction on the lines of a text.** The last line has no line feed; any other is followed by
one and by the text that is left. -/
@[elab_as_elim]
theorem lineInduction {P : List Char → Prop} (last : ∀ l, '\n' ∉ l → P l)
    (more : ∀ l cs, '\n' ∉ l → P cs → P (l ++ '\n' :: cs)) (cs : List Char) : P cs := by
  -- the line read so far is carried in front until its line feed turns up
  have hread : ∀ l, '\n' ∉ l → P (l ++ cs) := by
    induction cs with
    | nil =>
      intro l hl
      rw [List.append_nil]
      exact last l hl
    | cons c cs ih =>
      intro l hl
      by_cases hc : c = '\n'
      · rw [hc]
        exact more l cs hl (ih [] List.not_mem_nil)
      · rw [List.append_cons]
        apply ih (l ++ [c])
        intro hmem
        rcases List.mem_append.mp hmem with hmem | hmem
        · exact hl hmem
        · exact hc (List.mem_singleton.mp hmem).symm
  exact hread [] List.not_mem_nil

end ShaderLint.Text
