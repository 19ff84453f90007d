/-
The statements of consecutive lines of code.

The number of a statement counts lines, blank ones included, so the statements of some lines are
told by where the first of them stands: `ofLinesFrom` carries that count along, and everything here
is an induction on it. Three laws come out. Lines that are trimmed alike make the same statements
(`ofLinesFrom_congr`). Lines put after other lines make their statements after theirs, and every
number grows by how many lines come before (`ofLinesFrom_append`, `ofLinesFrom_shift`). And each
line that is not blank makes one statement, which says of the line what `Reads` lists, while a
blank one makes none (`forall₂_ofLinesFrom`).
-/
import Mathlib.Data.List.Forall2
import ShaderLint.Classify
import ShaderLint.Proofs.Reading

set_option autoImplicit false

namespace ShaderLint

open Text

/-! ## Counting on -/

/-- The number of a line when so many lines are put before its text. -/
def LineNumber.shift (n : Nat) (line : LineNumber) : LineNumber :=
  ⟨line.val + n, Nat.le_add_right_of_le line.pos⟩

namespace Statement

/-- A statement when so many lines are put before its text. -/
def shift (n : Nat) (s : Statement) : Statement := { s with line := s.line.shift n }

/-- The statements of consecutive lines of code, given how many lines come before them. -/
def ofLinesFrom (linesBefore : Nat) : List (List Char) → List Statement
  | [] => []
  | code :: codes =>
    (ofCode? linesBefore code).toList ++ ofLinesFrom (linesBefore + 1) codes

/-- The statements of a source are counted on from none. -/
theorem ofLines_eq (codes : List (List Char)) : ofLines codes = ofLinesFrom 0 codes := by
  have hfrom : ∀ n, (codes.zipIdx n).filterMap (fun line => ofCode? line.2 line.1)
      = ofLinesFrom n codes := by
    induction codes with
    | nil =>
      intro n
      rfl
    | cons code codes ih =>
      intro n
      rw [List.zipIdx_cons, List.filterMap_cons, ofLinesFrom, ih (n + 1)]
      cases ofCode? n code <;> rfl
  exact hfrom 0

/-- The statements of a source are those of its lines, stripped one after the other. -/
theorem classify_statements (source : String) :
    (classify source).statements
      = ofLinesFrom 0 ((Comment.stripAll false (lines source.toList)).map (·.text)) := by
  rw [classify, ofLines_eq]

/-! ## One line -/

/-- What a statement says of the line of code that it is made from. -/
structure Reads (linesBefore : Nat) (code : List Char) (s : Statement) : Prop where
  line : s.line.val = 1 + linesBefore
  text : s.text.toList = trim code
  semicolon : s.endsWithSemicolon = true ↔ [';'] <:+ trim code
  requires : s.requiresSemicolon = (Rule.deciding (trim code)).requiresSemicolon
  rule : s.rule = (Rule.deciding (trim code)).name

/-- **What becomes of a line.** A blank one makes no statement, and any other one that reads it. -/
theorem ofCode?_cases (n : Nat) (code : List Char) :
    (code.all isBlank = true ∧ ofCode? n code = none)
    ∨ (code.all isBlank = false ∧ ∃ s, ofCode? n code = some s ∧ Reads n code s) := by
  unfold ofCode?
  by_cases hblank : code.all isBlank = true
  · left
    have hnil : trim code = [] := trim_eq_nil_iff.mpr (List.all_eq_true.mp hblank)
    simp only [hnil, List.isEmpty_nil, if_true, and_true]
    exact hblank
  · right
    have hne : (trim code).isEmpty = false := by
      rw [List.isEmpty_eq_false_iff]
      intro hnil
      exact hblank (List.all_eq_true.mpr (trim_eq_nil_iff.mp hnil))
    simp only [hne, Bool.false_eq_true, if_false]
    -- each field is the one that the statement is built with
    refine ⟨Bool.eq_false_iff.mpr hblank, _, rfl, Nat.add_comm n 1, String.toList_ofList, ?_,
      rfl, rfl⟩
    exact Shape.endsWith_iff

/-- The statement of a line, if there is one, reads it. -/
theorem reads_of_mem_ofCode? {n : Nat} {code : List Char} {s : Statement}
    (hs : s ∈ (ofCode? n code).toList) : Reads n code s := by
  rw [Option.mem_toList] at hs
  rcases ofCode?_cases n code with ⟨-, hnone⟩ | ⟨-, t, ht, hreads⟩
  · rw [hnone] at hs
    contradiction
  · rw [ht, Option.some.injEq] at hs
    rw [← hs]
    exact hreads

theorem line_of_mem_ofCode? {n : Nat} {code : List Char} {s : Statement}
    (hs : s ∈ (ofCode? n code).toList) : s.line.val = n + 1 := by
  rw [(reads_of_mem_ofCode? hs).line, Nat.add_comm]

/-- A line is only ever looked at once it is trimmed. -/
theorem ofCode?_congr (n : Nat) {code code' : List Char} (h : trim code = trim code') :
    ofCode? n code = ofCode? n code' := by
  unfold ofCode?
  rw [h]

/-- One line further on, one line more before the statement. -/
theorem ofCode?_shift (k n : Nat) (code : List Char) :
    ofCode? (n + k) code = (ofCode? n code).map (shift k) := by
  unfold ofCode?
  by_cases h : (trim code).isEmpty = true
  · simp only [h, if_true, Option.map_none]
  · simp only [h, Bool.false_eq_true, if_false, Option.map_some, shift]
    have hline : (LineNumber.preceded n).shift k = LineNumber.preceded (n + k) :=
      LineNumber.eq_of_val_eq (Nat.add_right_comm n 1 k)
    rw [hline]

/-! ## Consecutive lines -/

/-- **Lines that are trimmed alike make the same statements.** -/
theorem ofLinesFrom_congr (n : Nat) {codes codes' : List (List Char)}
    (h : codes.map trim = codes'.map trim) : ofLinesFrom n codes = ofLinesFrom n codes' := by
  induction codes generalizing n codes' with
  | nil =>
    rw [List.map_nil] at h
    rw [List.map_eq_nil_iff.mp h.symm]
  | cons code codes ih =>
    rcases codes' with _ | ⟨code', codes'⟩
    · contradiction
    · rw [List.map_cons, List.map_cons, List.cons.injEq] at h
      rw [ofLinesFrom, ofLinesFrom, ofCode?_congr n h.1, ih (n + 1) h.2]

/-- **Lines after other lines make their statements after theirs.** -/
theorem ofLinesFrom_append (n : Nat) (xs ys : List (List Char)) :
    ofLinesFrom n (xs ++ ys) = ofLinesFrom n xs ++ ofLinesFrom (n + xs.length) ys := by
  induction xs generalizing n with
  | nil => rfl
  | cons code xs ih =>
    -- the lines before `ys` are the `n` before all of them, the first, and the rest of `xs`
    rw [List.cons_append, ofLinesFrom, ih, ofLinesFrom, List.append_assoc, List.length_cons,
      Nat.add_assoc n 1, Nat.add_comm 1]

/-- **Lines put before change nothing but the numbers.** -/
theorem ofLinesFrom_shift (k n : Nat) (codes : List (List Char)) :
    ofLinesFrom (n + k) codes = (ofLinesFrom n codes).map (shift k) := by
  induction codes generalizing n with
  | nil => rfl
  | cons code codes ih =>
    rw [ofLinesFrom, ofLinesFrom, List.map_append, ofCode?_shift, Nat.add_right_comm, ih]
    cases ofCode? n code <;> rfl

/-- **Each line that is not blank makes one statement, in order, and a blank one makes none.** -/
theorem forall₂_ofLinesFrom (n : Nat) (codes : List (List Char)) :
    List.Forall₂ (fun (line : List Char × Nat) s => Reads line.2 line.1 s)
      ((codes.zipIdx n).filter fun line => !line.1.all isBlank) (ofLinesFrom n codes) := by
  induction codes generalizing n with
  | nil => exact .nil
  | cons code codes ih =>
    rw [List.zipIdx_cons, ofLinesFrom]
    rcases ofCode?_cases n code with ⟨hblank, hnone⟩ | ⟨hblank, s, hs, hreads⟩
    · -- the line is filtered out, and makes no statement
      rw [List.filter_cons_of_neg (by simp [hblank]), hnone]
      exact ih (n + 1)
    · rw [List.filter_cons_of_pos (by simp [hblank]), hs]
      exact .cons hreads (ih (n + 1))

/-- Each line that is not blank has the statement that reads it. -/
theorem exists_reads (n : Nat) {k : Nat} {codes : List (List Char)} {code : List Char}
    (hcode : codes[k]? = some code) (hne : trim code ≠ []) :
    ∃ s ∈ ofLinesFrom n codes, Reads (n + k) code s := by
  induction codes generalizing n k with
  | nil => contradiction
  | cons first codes ih =>
    rw [ofLinesFrom]
    rcases k with _ | k
    · rw [List.getElem?_cons_zero, Option.some.injEq] at hcode
      rw [hcode]
      rcases ofCode?_cases n code with ⟨hblank, -⟩ | ⟨-, s, hs, hreads⟩
      · exact absurd (trim_eq_nil_iff.mpr (List.all_eq_true.mp hblank)) hne
      · rw [hs]
        exact ⟨s, List.mem_append_left _ (Option.mem_toList.mpr rfl), hreads⟩
    · rw [List.getElem?_cons_succ] at hcode
      obtain ⟨s, hs, hreads⟩ := ih (n + 1) hcode
      rw [Nat.add_right_comm] at hreads
      exact ⟨s, List.mem_append_right _ hs, hreads⟩

/-- And each statement reads some line. -/
theorem exists_reads_of_mem {n : Nat} {codes : List (List Char)} {s : Statement}
    (hs : s ∈ ofLinesFrom n codes) : ∃ k code, Reads k code s := by
  induction codes generalizing n with
  | nil => contradiction
  | cons code codes ih =>
    rcases List.mem_append.mp hs with hs | hs
    · exact ⟨n, code, reads_of_mem_ofCode? hs⟩
    · exact ih hs

theorem line_of_mem_ofLinesFrom {n : Nat} {codes : List (List Char)} {s : Statement}
    (hs : s ∈ ofLinesFrom n codes) : n < s.line.val ∧ s.line.val ≤ n + codes.length := by
  induction codes generalizing n with
  | nil => contradiction
  | cons code codes ih =>
    rw [List.length_cons]
    rcases List.mem_append.mp hs with hs | hs
    · have hline := line_of_mem_ofCode? hs
      omega
    · have hline := ih hs
      omega

theorem ofLinesFrom_increasing (n : Nat) (codes : List (List Char)) :
    (ofLinesFrom n codes).Pairwise fun s t => s.line.val < t.line.val := by
  induction codes generalizing n with
  | nil => exact .nil
  | cons code codes ih =>
    rw [ofLinesFrom, List.pairwise_append]
    refine ⟨?_, ih (n + 1), ?_⟩
    · -- one line makes one statement at most, so there is nothing to compare
      cases ofCode? n code with
      | none => exact .nil
      | some s => exact List.pairwise_singleton _ s
    · intro s hs t ht
      have hsline := line_of_mem_ofCode? hs
      have htline := line_of_mem_ofLinesFrom ht
      omega

/-- **A line that is not blank has one statement under its number, and a blank one has none.** -/
theorem countP_ofLinesFrom (n k : Nat) {codes : List (List Char)} {code : List Char}
    (hcode : codes[k]? = some code) :
    (ofLinesFrom n codes).countP (fun s => s.line.val == n + k + 1)
      = if code.all isBlank then 0 else 1 := by
  induction codes generalizing n k with
  | nil => contradiction
  | cons first codes ih =>
    rw [ofLinesFrom, List.countP_append]
    rcases k with _ | k
    · -- the statements of the lines further down have greater numbers
      have hrest : (ofLinesFrom (n + 1) codes).countP (fun s => s.line.val == n + 0 + 1) = 0 := by
        rw [List.countP_eq_zero]
        intro s hs heq
        have hline := line_of_mem_ofLinesFrom hs
        rw [beq_iff_eq] at heq
        omega
      rw [List.getElem?_cons_zero, Option.some.injEq] at hcode
      rw [hrest, Nat.add_zero, ← hcode]
      rcases ofCode?_cases n first with ⟨hblank, hnone⟩ | ⟨hblank, s, hs, hreads⟩
      · rw [hblank, hnone]
        rfl
      · rw [hblank, hs, Option.toList_some, List.countP_singleton, hreads.line,
          Nat.add_comm 1 n, beq_self_eq_true]
        rfl
    · -- and that of the first line has a smaller one
      have hfirst : (ofCode? n first).toList.countP (fun s => s.line.val == n + (k + 1) + 1)
          = 0 := by
        rw [List.countP_eq_zero]
        intro s hs heq
        have hline := line_of_mem_ofCode? hs
        rw [beq_iff_eq] at heq
        omega
      rw [List.getElem?_cons_succ] at hcode
      have hrest := ih (n + 1) k hcode
      rw [Nat.add_right_comm n 1 k] at hrest
      rw [hfirst, Nat.zero_add]
      exact hrest

end Statement

end ShaderLint
