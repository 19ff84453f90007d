/-
A line, cut in two.

The stripper hands on from character to character more than it hands on from line to line: that it is
in a line comment, and that half a token may have been read. So a line that is stripped in two parts
gives what it gives in one piece if the cut leaves neither behind. A line comment is the one case that
can be said apart, since it swallows all of the second part (`Mode.codeOf_line`). And half a token is
what the first part ends with (`Mode.pending_suffix`), so a first part that ends in neither a slash nor
a star leaves none.

That a line comment is open is said of the text: the reader comes to two slashes in code
(`OpensLineComment`). It is in a line comment after exactly these texts (`after_eq_line_iff`).
-/
import Mathlib.Data.List.Infix
import ShaderLint.Proofs.WholeSourceScan

set_option autoImplicit false

namespace ShaderLint.Comment

/-! ## Line comments -/

/-- A line comment goes on to the end of its line. -/
theorem Mode.after_line (cs : List Char) : Mode.line.after cs = .line := by
  induction cs with
  | nil => rfl
  | cons c cs ih => exact ih

/-- Nothing of it is code. -/
theorem Mode.codeOf_line (cs : List Char) : Mode.line.codeOf cs = [] := by
  induction cs with
  | nil => rfl
  | cons c cs ih =>
    rw [codeOf_cons]
    exact ih

theorem Mode.next_eq_slash_iff {mode : Mode} {c : Char} :
    mode.next c = .slash ↔ mode = .code ∧ c = '/' := by
  by_cases hslash : c = '/' <;> by_cases hstar : c = '*' <;> cases mode <;>
    simp [next, hslash, hstar]

theorem Mode.next_eq_line_iff {mode : Mode} {c : Char} :
    mode.next c = .line ↔ mode = .line ∨ mode = .slash ∧ c = '/' := by
  by_cases hslash : c = '/' <;> by_cases hstar : c = '*' <;> cases mode <;>
    simp [next, hslash, hstar]

/-- The reader comes to two slashes in code. -/
def OpensLineComment (inBlock : Bool) (line : List Char) : Prop :=
  ∃ front back, line = front ++ '/' :: '/' :: back ∧ (Mode.entering inBlock).after front = .code

/-- **After two slashes in code the reader is in a line comment, and only then.** The induction is on
the text from its end: the last character was in the comment already, or it is the second slash. -/
theorem after_eq_line_iff (inBlock : Bool) (line : List Char) :
    (Mode.entering inBlock).after line = .line ↔ OpensLineComment inBlock line := by
  constructor
  · intro h
    induction line using List.reverseRecOn with
    | nil => cases inBlock <;> contradiction
    | append_singleton line c ih =>
      rw [Mode.after_append, Mode.after, Mode.after, Mode.next_eq_line_iff] at h
      rcases h with hline | ⟨hslash, rfl⟩
      · obtain ⟨front, back, rfl, hfront⟩ := ih hline
        exact ⟨front, back ++ [c], by simp, hfront⟩
      · -- the first slash is the character before it
        rcases List.eq_nil_or_concat' line with rfl | ⟨front, b, rfl⟩
        · cases inBlock <;> contradiction
        · rw [Mode.after_append, Mode.after, Mode.after, Mode.next_eq_slash_iff] at hslash
          exact ⟨front, [], by simp [hslash.2], hslash.1⟩
  · rintro ⟨front, back, rfl, hfront⟩
    rw [Mode.after_append, hfront]
    exact Mode.after_line back

/-! ## Half a token -/

/-- A character is held back alone or not at all. -/
theorem Mode.pending_next (mode : Mode) (c : Char) :
    (mode.next c).pending = [] ∨ (mode.next c).pending = [c] := by
  by_cases hslash : c = '/' <;> by_cases hstar : c = '*' <;> cases mode <;>
    simp [next, pending, hslash, hstar]

/-- **What is held back is what the text ends with.** -/
theorem Mode.pending_suffix (inBlock : Bool) (line : List Char) :
    ((Mode.entering inBlock).after line).pending <:+ line := by
  rcases List.eq_nil_or_concat' line with rfl | ⟨front, c, rfl⟩
  · cases inBlock <;> exact List.suffix_rfl
  · rw [after_append, after, after]
    rcases ((Mode.entering inBlock).after front).pending_next c with h | h
    · rw [h]
      exact List.nil_suffix
    · rw [h]
      exact List.suffix_append front [c]

/-- After a text that ends in neither character of a token the reader is in a line comment, or it
stands where it would enter a line. -/
theorem Mode.after_cases {inBlock : Bool} {line : List Char} (hslash : line.getLast? ≠ some '/')
    (hstar : line.getLast? ≠ some '*') :
    (Mode.entering inBlock).after line = .line
      ∨ ∃ inBlock', (Mode.entering inBlock).after line = .entering inBlock' := by
  have hsuffix := pending_suffix inBlock line
  cases hmode : (Mode.entering inBlock).after line with
  | code => exact .inr ⟨false, rfl⟩
  | line => exact .inl rfl
  | block => exact .inr ⟨true, rfl⟩
  | slash =>
    rw [hmode] at hsuffix
    exact absurd (List.singleton_suffix_iff_getLast?_eq_some.mp hsuffix) hslash
  | star =>
    rw [hmode] at hsuffix
    exact absurd (List.singleton_suffix_iff_getLast?_eq_some.mp hsuffix) hstar

/-! ## The two parts -/

theorem Mode.rest_entering (inBlock : Bool) : (Mode.entering inBlock).rest = [] := by
  cases inBlock <;> rfl

theorem Mode.inBlock_entering (inBlock : Bool) : (Mode.entering inBlock).inBlock = inBlock := by
  cases inBlock <;> rfl

/-- Where the end of the line decides nothing, the code is what is written out. -/
theorem Mode.codeOf_eq_written {mode : Mode} {line : List Char}
    (h : (mode.after line).rest = []) : mode.codeOf line = mode.written line := by
  rw [codeOf, h, List.append_nil]

/-- **A line is stripped in two parts.** The first ends in neither a slash nor a star. If it opens a
line comment, the second part adds nothing. Otherwise the second part is stripped as a line of its own
would be that comes after the first, and the code of the one is put after that of the other. -/
theorem strip_append (inBlock : Bool) (u v : List Char) (hslash : u.getLast? ≠ some '/')
    (hstar : u.getLast? ≠ some '*') :
    (OpensLineComment inBlock u → strip inBlock (u ++ v) = ⟨(strip inBlock u).text, false⟩)
    ∧ (¬ OpensLineComment inBlock u →
        strip inBlock (u ++ v)
          = ⟨(strip inBlock u).text ++ (strip (strip inBlock u).inBlock v).text,
              (strip (strip inBlock u).inBlock v).inBlock⟩) := by
  simp only [strip_eq, Mode.codeOf_append, Mode.after_append, ← after_eq_line_iff]
  constructor
  · intro hline
    have hwritten := Mode.codeOf_eq_written (congrArg Mode.rest hline)
    rw [hwritten, hline, Mode.codeOf_line, Mode.after_line, List.append_nil]
    rfl
  · intro hline
    obtain ⟨inBlock', hmode⟩ := (Mode.after_cases hslash hstar).resolve_left hline
    have hwritten := Mode.codeOf_eq_written
      ((congrArg Mode.rest hmode).trans (Mode.rest_entering inBlock'))
    rw [hwritten, hmode, Mode.inBlock_entering]

/-- A first part that leaves a block comment and opens another, with two slashes in the first; and one
that opens a line comment with the token of a block comment after the cut. -/
theorem strip_append_block_and_line :
    strip true "// */ a b /* c ".toList = ⟨" a b ".toList, true⟩
    ∧ strip true ("// */ a b /* c ".toList ++ "*/ d // e".toList)
      = ⟨" a b ".toList ++ " d ".toList, false⟩
    ∧ strip false "a // b ".toList = ⟨"a ".toList, false⟩
    ∧ strip false ("a // b ".toList ++ "/* c".toList) = ⟨"a ".toList, false⟩ := by
  refine ⟨by decide, ?_, by decide, ?_⟩
  · have hclosed : ¬ OpensLineComment true "// */ a b /* c ".toList :=
      (after_eq_line_iff _ _).not.mp (by decide)
    exact (strip_append true "// */ a b /* c ".toList "*/ d // e".toList (by decide) (by decide)).2
      hclosed
  · have hopened : OpensLineComment false "a // b ".toList :=
      (after_eq_line_iff _ _).mp (by decide)
    exact (strip_append false "a // b ".toList "/* c".toList (by decide) (by decide)).1 hopened

/-- Where the first part does end in one of the two, the cut may go through a token. -/
example : (strip false "a/".toList).text ++ (strip false "/b".toList).text = "a//b".toList
    ∧ (strip false "a//b".toList).text = "a".toList
    ∧ (strip true "*".toList).text ++ (strip true "/b".toList).text = []
    ∧ (strip true "*/b".toList).text = "b".toList := by decide

end ShaderLint.Comment
