/-
The stripper against one scan of the whole source.

The scan of `Scan` walks through a source in three modes, line breaks included, and takes each
comment token at one go. The stripper never sees a break, takes one character at a time, and tells
the next line no more than whether a block comment is open. This file proves that the statements
come out the same (`classify_statements_eq`), and states what that makes of a source's statements
(`classify_follows_scan`).

The invariant is that the stripper is at most one character behind. It stands where the scan stands
with the undecided slash or star put back in front of the text (`Comment.Mode.pending`), and then
one character takes both to the same place: `codeLines_step`. A whole line is an induction over
that step, and a whole source an induction over its lines.

The two accounts differ in one character only. The scan keeps the carriage return before a line
feed, as it keeps any other, and the splitter takes it for a part of the break. It is blank and at
the end of its line, so trimming removes it, and no statement shows it.
-/
import ShaderLint.Proofs.PhysicalLines
import ShaderLint.Proofs.Statements
import ShaderLint.Proofs.Stripping
import ShaderLint.Scan

set_option autoImplicit false

namespace ShaderLint

open Text

/-! ## Where the scan stands -/

/-- The mode of the scan for a mode of the stripper. -/
def Comment.Mode.scan : Comment.Mode → Scan.Mode
  | .code | .slash => .code
  | .line => .line
  | .block | .star => .block

/-- The character that the stripper has read and the scan has not. -/
def Comment.Mode.pending : Comment.Mode → List Char
  | .slash => ['/']
  | .star => ['*']
  | .code | .line | .block => []

namespace Scan

/-- A line break forgets all but whether a block comment is open. -/
theorem nextLine_scan (m : Comment.Mode) :
    m.scan.nextLine = (Comment.Mode.entering m.inBlock).scan := by
  cases m <;> rfl

theorem foldr_keep (xs first : List Char) (rest : List (List Char)) :
    xs.foldr keep (first :: rest) = (xs ++ first) :: rest := by
  induction xs with
  | nil => rfl
  | cons c xs ih => rw [List.foldr_cons, ih, keep, List.cons_append]

/-! ## The scan where no token begins

Its equations are those of the definition with the tokens ruled out. -/

theorem codeLines_code {c : Char} {cs : List Char} (hc : c ≠ '\n')
    (htoken : c = '/' → cs.head? ≠ some '/' ∧ cs.head? ≠ some '*') :
    codeLines .code (c :: cs) = keep c (codeLines .code cs) := by
  rw [codeLines, if_neg hc]
  -- the goals left are the equations above this one, which do not apply
  · rintro rest - hslash rfl
    exact (htoken hslash).2 rfl
  · rintro rest - hslash rfl
    exact (htoken hslash).1 rfl
  · rintro rest ⟨⟩

theorem codeLines_block {c : Char} {cs : List Char} (hc : c ≠ '\n')
    (htoken : c = '*' → cs.head? ≠ some '/') :
    codeLines .block (c :: cs) = codeLines .block cs := by
  rw [codeLines, if_neg hc]
  · rintro rest ⟨⟩
  · rintro rest ⟨⟩
  · rintro rest - hstar rfl
    exact htoken hstar rfl

theorem codeLines_lineComment {c : Char} {cs : List Char} (hc : c ≠ '\n') :
    codeLines .line (c :: cs) = codeLines .line cs := by
  rw [codeLines, if_neg hc] <;> rintro rest ⟨⟩

/-! ## One character, one line -/

/-- **One character takes the stripper and the scan to the same place.** The cases are the modes of
the stripper, and in each the characters that it decides by. -/
theorem codeLines_step (m : Comment.Mode) {c : Char} (hc : c ≠ '\n') (cs : List Char) :
    codeLines m.scan (m.pending ++ c :: cs)
      = (m.adds c).foldr keep (codeLines (m.next c).scan ((m.next c).pending ++ cs)) := by
  cases m with
  | code =>
    by_cases hslash : c = '/'
    · -- the stripper holds the slash back and the scan has not read it: nothing happens
      rw [hslash]
      rfl
    · simp only [Comment.Mode.adds, Comment.Mode.next, if_neg hslash]
      exact codeLines_code hc fun h => absurd h hslash
  | slash =>
    by_cases hslash : c = '/'
    · -- the second half of a token, which the scan takes at one go
      rw [hslash]
      rfl
    · by_cases hstar : c = '*'
      · rw [hstar]
        rfl
      · -- no token after all: the slash held back is kept, and then the character
        have hboth : ¬ (c = '/' ∨ c = '*') := not_or.mpr ⟨hslash, hstar⟩
        simp only [Comment.Mode.adds, Comment.Mode.next, if_neg hslash, if_neg hstar,
          if_neg hboth]
        have hheld : codeLines .code ('/' :: c :: cs) = keep '/' (codeLines .code (c :: cs)) := by
          refine codeLines_code (by decide) fun _ => ⟨?_, ?_⟩
          · exact fun h => hslash (Option.some.inj h)
          · exact fun h => hstar (Option.some.inj h)
        have hnext : codeLines .code (c :: cs) = keep c (codeLines .code cs) :=
          codeLines_code hc fun h => absurd h hslash
        exact hheld.trans (congrArg (keep '/') hnext)
  | line => exact codeLines_lineComment hc
  | block =>
    by_cases hstar : c = '*'
    · rw [hstar]
      rfl
    · simp only [Comment.Mode.adds, Comment.Mode.next, if_neg hstar]
      exact codeLines_block hc fun h => absurd h hstar
  | star =>
    by_cases hslash : c = '/'
    · -- the token is complete, and the scan takes it at one go
      rw [hslash]
      rfl
    · have hheld : codeLines .block ('*' :: c :: cs) = codeLines .block (c :: cs) := by
        refine codeLines_block (by decide) fun _ => ?_
        exact fun h => hslash (Option.some.inj h)
      by_cases hstar : c = '*'
      · rw [hstar] at hheld ⊢
        -- the first star closes nothing, and the second is held back in its place
        exact hheld
      · simp only [Comment.Mode.adds, Comment.Mode.next, if_neg hslash, if_neg hstar]
        exact hheld.trans (codeLines_block hc fun h => absurd h hstar)

/-- Some characters of a line: what the stripper writes out, the scan keeps. -/
theorem codeLines_written (m : Comment.Mode) {l : List Char} (hl : '\n' ∉ l) (cs : List Char) :
    codeLines m.scan (m.pending ++ (l ++ cs))
      = (m.written l).foldr keep (codeLines (m.after l).scan ((m.after l).pending ++ cs)) := by
  induction l generalizing m with
  | nil => rfl
  | cons c l ih =>
    have hc : c ≠ '\n' := (List.ne_of_not_mem_cons hl).symm
    rw [List.cons_append, codeLines_step m hc, ih _ (List.not_mem_of_not_mem_cons hl),
      Comment.Mode.written, Comment.Mode.after, List.foldr_append]

/-- The end of the source decides a slash as the stripper does. -/
theorem codeLines_pending (m : Comment.Mode) : codeLines m.scan m.pending = [m.rest] := by
  cases m <;> rfl

/-- A line feed decides a slash as the stripper does, and ends the line. -/
theorem codeLines_pending_lineFeed (m : Comment.Mode) (cs : List Char) :
    codeLines m.scan (m.pending ++ '\n' :: cs) = m.rest :: codeLines m.scan.nextLine cs := by
  cases m <;> rfl

section Line

variable (inBlock : Bool) {l : List Char} (hl : '\n' ∉ l)

include hl

/-- **The last line.** What the scan keeps of it is the code that the stripper gives back. -/
theorem codeLines_of_not_mem :
    codeLines (Comment.Mode.entering inBlock).scan l
      = [(Comment.Mode.entering inBlock).codeOf l] := by
  have h := codeLines_written (.entering inBlock) hl []
  -- a line is entered with nothing held back, whether or not a block comment is open
  rw [List.append_nil, List.append_nil, codeLines_pending, foldr_keep] at h
  cases inBlock <;> exact h

/-- **Any other line.** The same, and the next line is scanned with the block comment open or
closed as the stripper says. -/
theorem codeLines_append_lineFeed (cs : List Char) :
    codeLines (Comment.Mode.entering inBlock).scan (l ++ '\n' :: cs)
      = (Comment.Mode.entering inBlock).codeOf l
        :: codeLines (Comment.Mode.entering
            ((Comment.Mode.entering inBlock).after l).inBlock).scan cs := by
  have h := codeLines_written (.entering inBlock) hl ('\n' :: cs)
  rw [codeLines_pending_lineFeed, foldr_keep, nextLine_scan] at h
  cases inBlock <;> exact h

end Line

/-! ## A whole source -/

/-- One line for each line feed, and one more. -/
theorem length_codeLines (inBlock : Bool) (cs : List Char) :
    (codeLines (Comment.Mode.entering inBlock).scan cs).length = 1 + cs.count '\n' := by
  induction cs using lineInduction generalizing inBlock with
  | last l hl => rw [codeLines_of_not_mem inBlock hl, List.count_eq_zero.mpr hl]; rfl
  | more l cs hl ih =>
    rw [codeLines_append_lineFeed inBlock hl, List.length_cons, ih, List.count_append,
      List.count_eq_zero.mpr hl, List.count_cons_self]
    omega

/-- **Line by line, the stripper and the scan give the same code once it is trimmed.** -/
theorem map_trim_stripAll (inBlock : Bool) (cs : List Char) :
    ((Comment.stripAll inBlock (lines cs)).map (·.text)).map trim
      = (codeLines (Comment.Mode.entering inBlock).scan cs).map trim := by
  induction cs using lineInduction generalizing inBlock with
  | last l hl =>
    -- no break follows, so a carriage return at the end is a character to both
    rw [lines_of_not_mem hl, codeLines_of_not_mem inBlock hl, Comment.stripAll_cons,
      Comment.strip_eq]
    rfl
  | more l cs hl ih =>
    rw [lines_append_lineFeed hl, codeLines_append_lineFeed inBlock hl, Comment.stripAll_cons,
      Comment.strip_eq, List.map_cons, List.map_cons, List.map_cons,
      Comment.Mode.trim_codeOf_withoutReturn, Comment.Mode.inBlock_after_withoutReturn, ih]

/-- Tokens that overlap: `/*/` leaves its comment open, and `//*` outside of one is a line comment. -/
example : codeLines .code "a /*/ b\n//* c\n*/ d //* e".toList
    = ["a ".toList, [], " d ".toList] := by decide

/-- **The statements of a source are those of the scan.** -/
theorem classify_statements_eq (source : String) :
    (classify source).statements = statements source := by
  have h := Statement.ofLinesFrom_congr 0 (map_trim_stripAll false source.toList)
  rw [← Statement.ofLines_eq, ← Statement.ofLines_eq] at h
  exact h

theorem classify_statements_from (source : String) :
    (classify source).statements
      = Statement.ofLinesFrom 0 (codeLines .code source.toList) := by
  rw [classify_statements_eq, statements, Statement.ofLines_eq]

theorem classify_increasing (source : String) :
    (classify source).statements.Pairwise fun s t => s.line.val < t.line.val := by
  rw [classify_statements_from]
  exact Statement.ofLinesFrom_increasing 0 _

theorem line_le_of_mem_classify {source : String} {s : Statement}
    (hs : s ∈ (classify source).statements) : s.line.val ≤ 1 + source.toList.count '\n' := by
  rw [classify_statements_from] at hs
  have hline := Statement.line_of_mem_ofLinesFrom hs
  have hlength : (codeLines .code source.toList).length = 1 + source.toList.count '\n' :=
    length_codeLines false source.toList
  omega

/-- **What a source's statements are.** The scan gives one line for each line feed of the source
and one more. Those with a character in them that is no blank make one statement each, in order,
which says what `Statement.Reads` lists; so the numbers increase from line to line, none is beyond
the last line, and no line of code is left out or told twice. -/
theorem classify_follows_scan (source : String) :
    (codeLines .code source.toList).length = 1 + source.toList.count '\n'
    ∧ List.Forall₂ (fun (line : List Char × Nat) s => Statement.Reads line.2 line.1 s)
        ((codeLines .code source.toList).zipIdx.filter fun line => !line.1.all isBlank)
        (classify source).statements
    ∧ ((classify source).statements.Pairwise fun s t => s.line.val < t.line.val)
    ∧ (∀ s ∈ (classify source).statements,
        1 ≤ s.line.val ∧ s.line.val ≤ 1 + source.toList.count '\n')
    ∧ ∀ n code, (codeLines .code source.toList)[n]? = some code →
        (classify source).statements.countP (fun s => s.line.val == 1 + n)
          = if code.all isBlank then 0 else 1 := by
  refine ⟨length_codeLines false source.toList, ?_, classify_increasing source,
    fun s hs => ⟨s.line.pos, line_le_of_mem_classify hs⟩, ?_⟩
  · rw [classify_statements_from]
    exact Statement.forall₂_ofLinesFrom 0 _
  · intro n code hcode
    rw [classify_statements_from, ← Statement.countP_ofLinesFrom 0 n hcode, Nat.zero_add,
      Nat.add_comm 1 n]

end Scan
end ShaderLint
