/-
Lines, joined and split again.

A source is its lines with a break between each two, and it is that in one way only. Lines that are
joined by breaks of either kind come back when the text is split (`lines_joinLines`), and a text that
is split comes back when its lines are joined by the right breaks (`exists_breaks`), of which there
is one choice (`breaks_unique`).

What could be read in two ways is a return at the end of a line. Before a break it is a character of
the line if the break has a return of its own (`withoutReturn_concat`), and would be taken for a part
of the break if it has none; so the lines that are joined may not end in one, but for the last, after
which there is no break. In the other direction nothing has to be assumed: a line that comes out of a
split with a return at its end had a second one after it, and that is a part of its break.
-/
import Mathlib.Data.List.Basic
import ShaderLint.Proofs.PhysicalLines

set_option autoImplicit false

namespace ShaderLint.Text

/-! ## One break -/

/-- A line that does not end in a return loses nothing to the break. -/
theorem withoutReturn_of_ne {l : List Char} (h : l.getLast? ≠ some '\r') : withoutReturn l = l := by
  rcases withoutReturn_cases l with hsame | hreturn
  · exact hsame
  · rw [hreturn, List.getLast?_concat] at h
    contradiction

/-- One return is a part of the break, and the line is what stands before it. -/
theorem withoutReturn_concat (l : List Char) : withoutReturn (l ++ ['\r']) = l := by
  unfold withoutReturn
  rw [List.reverse_append, List.reverse_singleton, List.singleton_append, dropReturn, if_pos rfl,
    List.reverse_reverse]

/-- **A break ends its line.** Before a plain one the line may not end in a return. -/
theorem lines_append_break {l : List Char} (hl : '\n' ∉ l) (b : Break)
    (hreturn : b = .lineFeed → l.getLast? ≠ some '\r') (cs : List Char) :
    lines (l ++ (b.chars ++ cs)) = l :: lines cs := by
  cases b with
  | lineFeed =>
    have h := lines_append_lineFeed hl cs
    rw [withoutReturn_of_ne (hreturn rfl)] at h
    exact h
  | returnLineFeed =>
    have hl' : '\n' ∉ l ++ ['\r'] := by simp [hl]
    have h := lines_append_lineFeed hl' cs
    rw [withoutReturn_concat, List.append_assoc] at h
    exact h

/-- The two breaks differ in their first character. -/
theorem Break.chars_append_inj {b b' : Break} {xs ys : List Char}
    (h : b.chars ++ xs = b'.chars ++ ys) : b = b' ∧ xs = ys := by
  cases b <;> cases b' <;> simp_all [Break.chars]

/-! ## Joined lines are split into what was joined -/

/-- **Splitting undoes joining.** -/
theorem lines_joinLines {first : List Char} {rest : List (Break × List Char)}
    (hlines : ∀ line ∈ first :: rest.map Prod.snd, '\n' ∉ line)
    (hreturn : ∀ line ∈ (first :: rest.map Prod.snd).dropLast, line.getLast? ≠ some '\r') :
    lines (joinLines first rest) = first :: rest.map Prod.snd := by
  induction rest generalizing first with
  | nil =>
    rw [joinLines, List.flatMap_nil, List.append_nil]
    exact lines_of_not_mem (hlines first List.mem_cons_self)
  | cons next rest ih =>
    obtain ⟨b, line⟩ := next
    obtain ⟨hfirst, hrest⟩ := List.forall_mem_cons.mp hlines
    rw [List.map_cons, List.dropLast_cons_cons] at hreturn
    obtain ⟨hend, hends⟩ := List.forall_mem_cons.mp hreturn
    rw [joinLines_cons, lines_append_break hfirst b fun _ => hend, ih hrest hends]
    rfl

/-- Lines with line feeds between them are joined by plain breaks. -/
theorem intercalate_eq_joinLines (first : List Char) (rest : List (List Char)) :
    ['\n'].intercalate (first :: rest) = joinLines first (rest.map fun line => (.lineFeed, line)) := by
  induction rest generalizing first with
  | nil => rw [List.intercalate_singleton, List.map_nil, joinLines, List.flatMap_nil, List.append_nil]
  | cons second rest ih =>
    rw [List.intercalate_cons_cons, ih, List.map_cons, joinLines_cons, List.append_assoc]
    rfl

/-- The same of lines with line feeds between them. -/
theorem lines_intercalate {ls : List (List Char)} (hne : ls ≠ []) (hlines : ∀ line ∈ ls, '\n' ∉ line)
    (hreturn : ∀ line ∈ ls, line.getLast? ≠ some '\r') : lines (['\n'].intercalate ls) = ls := by
  obtain ⟨first, rest, rfl⟩ := List.exists_cons_of_ne_nil hne
  have hsnd : (rest.map fun line => (Break.lineFeed, line)).map Prod.snd = rest := by
    rw [List.map_map]
    exact List.map_id rest
  rw [intercalate_eq_joinLines, lines_joinLines, hsnd]
  · rw [hsnd]
    exact hlines
  · rw [hsnd]
    intro line hline
    exact hreturn line ((List.dropLast_sublist _).subset hline)

/-! ## A text is its lines, joined -/

/-- No line has a line feed in it. -/
theorem not_mem_of_mem_lines {cs line : List Char} (h : line ∈ lines cs) : '\n' ∉ line := by
  induction cs using lineInduction with
  | last l hl =>
    rw [lines_of_not_mem hl, List.mem_singleton] at h
    rwa [h]
  | more l cs hl ih =>
    rw [lines_append_lineFeed hl, List.mem_cons] at h
    rcases h with rfl | h
    · intro hmem
      rcases withoutReturn_cases l with hsame | hreturn
      · rw [hsame] at hmem
        exact hl hmem
      · apply hl
        rw [hreturn]
        exact List.mem_append_left _ hmem
    · exact ih h

/-- There is one line for each line feed, and one more. -/
theorem length_lines (cs : List Char) : (lines cs).length = 1 + cs.count '\n' := by
  induction cs using lineInduction with
  | last l hl => rw [lines_of_not_mem hl, List.count_eq_zero.mpr hl, List.length_singleton]
  | more l cs hl ih =>
    rw [lines_append_lineFeed hl, List.length_cons, ih, List.count_append, List.count_eq_zero.mpr hl,
      List.count_cons_self]
    omega

/-- **Joining undoes splitting**, by breaks that the text decides: a return before the line feed is a
part of the break. -/
theorem exists_breaks (cs : List Char) :
    ∃ first rest, lines cs = first :: rest ∧ ∃ breaks : List Break,
      breaks.length = rest.length ∧ joinLines first (breaks.zip rest) = cs := by
  induction cs using lineInduction with
  | last l hl => exact ⟨l, [], lines_of_not_mem hl, [], rfl, List.append_nil l⟩
  | more l cs hl ih =>
    obtain ⟨first, rest, hlines, breaks, hlength, hjoin⟩ := ih
    refine ⟨withoutReturn l, first :: rest, by rw [lines_append_lineFeed hl, hlines], ?_⟩
    rcases withoutReturn_cases l with hsame | hreturn
    · refine ⟨.lineFeed :: breaks, by simp [hlength], ?_⟩
      rw [List.zip_cons_cons, joinLines_cons, hjoin, hsame]
      rfl
    · refine ⟨.returnLineFeed :: breaks, by simp [hlength], ?_⟩
      rw [List.zip_cons_cons, joinLines_cons, hjoin]
      conv_rhs => rw [hreturn, List.append_assoc]
      rfl

/-- **There is one choice of breaks.** After each line the next character tells which break it is. -/
theorem breaks_unique {first : List Char} {rest : List (List Char)} {breaks breaks' : List Break}
    (hlength : breaks.length = rest.length) (hlength' : breaks'.length = rest.length)
    (h : joinLines first (breaks.zip rest) = joinLines first (breaks'.zip rest)) :
    breaks = breaks' := by
  induction rest generalizing first breaks breaks' with
  | nil => rw [List.eq_nil_of_length_eq_zero hlength, List.eq_nil_of_length_eq_zero hlength']
  | cons line rest ih =>
    obtain ⟨b, breaks, rfl⟩ := List.exists_cons_of_length_eq_add_one hlength
    obtain ⟨b', breaks', rfl⟩ := List.exists_cons_of_length_eq_add_one hlength'
    rw [List.zip_cons_cons, List.zip_cons_cons, joinLines_cons, joinLines_cons,
      List.append_cancel_left_eq] at h
    obtain ⟨rfl, hrest⟩ := Break.chars_append_inj h
    rw [List.length_cons, List.length_cons, Nat.add_right_cancel_iff] at hlength hlength'
    rw [ih hlength hlength' hrest]

/-- **Splitting and joining are inverse.** Lines without line feeds, of which none but the last may end
in a return, are what their join is split into, whichever break stands after each of them. And every
text is the join of the lines that it is split into, by one choice of breaks: so all that is lost of
it are the breaks, there is one line more than there are line feeds, and a text without them is one
line, whatever other characters it has. -/
theorem lines_inverse_joinLines :
    (∀ (first : List Char) (rest : List (Break × List Char)),
      (∀ line ∈ first :: rest.map Prod.snd, '\n' ∉ line) →
      (∀ line ∈ (first :: rest.map Prod.snd).dropLast, line.getLast? ≠ some '\r') →
      lines (joinLines first rest) = first :: rest.map Prod.snd)
    ∧ ∀ cs : List Char,
        (∃ first rest, lines cs = first :: rest ∧ ∃! breaks : List Break,
          breaks.length = rest.length ∧ joinLines first (breaks.zip rest) = cs)
        ∧ (lines cs).length = 1 + cs.count '\n'
        ∧ (∀ line ∈ lines cs, '\n' ∉ line)
        ∧ ('\n' ∉ cs → lines cs = [cs]) := by
  refine ⟨fun first rest hlines hreturn => lines_joinLines hlines hreturn, fun cs => ?_⟩
  refine ⟨?_, length_lines cs, fun line hline => not_mem_of_mem_lines hline, lines_of_not_mem⟩
  obtain ⟨first, rest, hlines, breaks, hlength, hjoin⟩ := exists_breaks cs
  refine ⟨first, rest, hlines, breaks, ⟨hlength, hjoin⟩, ?_⟩
  rintro breaks' ⟨hlength', hjoin'⟩
  exact breaks_unique hlength' hlength (hjoin'.trans hjoin.symm)

/-- Breaks of both kinds around an empty line and around separators that do not break, and a return
that is the last character of all; and a text in which two returns stand before a line feed. -/
theorem lines_inverse_joinLines_returns :
    lines "a\r\n\n\u2028b\u0085\r\rc\u000b\r\nd\r".toList
        = ["a".toList, [], "\u2028b\u0085\r\rc\u000b".toList, "d\r".toList]
    ∧ lines "a\r\r\nb".toList = ["a\r".toList, "b".toList]
    ∧ ∃! breaks : List Break, breaks.length = 1
        ∧ joinLines "a\r".toList (breaks.zip ["b".toList]) = "a\r\r\nb".toList := by
  refine ⟨?_, rfl, ?_⟩
  · exact lines_inverse_joinLines.1 "a".toList
      [(.returnLineFeed, []), (.lineFeed, "\u2028b\u0085\r\rc\u000b".toList),
        (.returnLineFeed, "d\r".toList)] (by decide) (by decide)
  · obtain ⟨first, rest, hlines, hbreaks⟩ := (lines_inverse_joinLines.2 "a\r\r\nb".toList).1
    have hparts : "a\r".toList = first ∧ ["b".toList] = rest := List.cons.inj hlines
    rw [← hparts.1, ← hparts.2] at hbreaks
    exact hbreaks

end ShaderLint.Text
