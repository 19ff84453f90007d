/-
Blanks at the ends of a line, and blanks between words.

Two facts about the class of blanks carry the rest of the theory. What is trimmed off a line is
decided by its ends alone, so blanks added at either end never show (`trim_append_blanks`), and
that is why a carriage return left standing at the end of a line changes no statement. And no
word character is blank (`isWord_of_isBlank`), so a run of the one ends where a run of the other
begins: the words and the gaps of a declaration can be read off in one way only.

The second fact is about the table of word characters. There are twenty-nine blanks, and each is
looked up in it.
-/
import Mathlib.Data.List.TakeWhile
import ShaderLint.Text.Blank
import ShaderLint.Text.Word

set_option autoImplicit false

namespace ShaderLint.Text

/-! ## Blanks are no word characters -/

/-- The code points of the blanks. -/
def blankCodes : List Nat :=
  List.range' 9 5 ++ List.range' 28 5 ++ [0x85, 0xA0, 0x1680] ++ List.range' 0x2000 11
    ++ [0x2028, 0x2029, 0x202F, 0x205F, 0x3000]

theorem toNat_mem_blankCodes {c : Char} (h : isBlank c = true) : c.toNat ∈ blankCodes := by
  -- the test as a disjunction of bounds on the code point, and so the list
  simp only [isBlank, Bool.or_eq_true, Bool.and_eq_true, decide_eq_true_eq, beq_iff_eq] at h
  simp only [blankCodes, List.mem_append, List.mem_range'_1, List.mem_cons, List.not_mem_nil,
    or_false]
  omega

/-- The table of word characters holds none of the blanks. -/
theorem isWord_ofNat_blankCodes : ∀ n ∈ blankCodes, isWord (Char.ofNat n) = false := by
  decide +kernel

theorem isWord_of_isBlank {c : Char} (h : isBlank c = true) : isWord c = false := by
  have hc := isWord_ofNat_blankCodes c.toNat (toNat_mem_blankCodes h)
  rwa [Char.ofNat_toNat] at hc

theorem isBlank_of_isWord {c : Char} (h : isWord c = true) : isBlank c = false := by
  by_contra hblank
  rw [isWord_of_isBlank (Bool.not_eq_false _ ▸ hblank)] at h
  contradiction

/-! ## Trimming -/

theorem trimStart_eq_nil_iff {cs : List Char} :
    trimStart cs = [] ↔ ∀ c ∈ cs, isBlank c = true := by
  rw [trimStart, List.dropWhile_eq_nil_iff]

theorem trimStart_blanks_append {gap : List Char} (h : ∀ c ∈ gap, isBlank c = true)
    (cs : List Char) : trimStart (gap ++ cs) = trimStart cs := by
  rw [trimStart, List.dropWhile_append_of_pos h, trimStart]

theorem trimEnd_append_blanks {gap : List Char} (h : ∀ c ∈ gap, isBlank c = true)
    (cs : List Char) : trimEnd (cs ++ gap) = trimEnd cs := by
  have hr : ∀ c ∈ gap.reverse, isBlank c = true := by
    intro c hc
    exact h c (List.mem_reverse.mp hc)
  rw [trimEnd, List.reverse_append, List.dropWhile_append_of_pos hr, trimEnd]

/-- **Blanks at the end do not show.** A line that is blank throughout is the case apart: there the
front is trimmed through to the end. -/
theorem trim_append_blanks {gap : List Char} (h : ∀ c ∈ gap, isBlank c = true)
    (cs : List Char) : trim (cs ++ gap) = trim cs := by
  unfold trim
  rw [trimStart, List.dropWhile_append]
  by_cases hcs : (cs.dropWhile isBlank).isEmpty = true
  · have hnil : trimStart cs = [] := List.isEmpty_iff.mp hcs
    have hgap : gap.dropWhile isBlank = [] := trimStart_eq_nil_iff.mpr h
    rw [if_pos hcs, hgap, hnil]
  · rw [if_neg hcs]
    exact trimEnd_append_blanks h (trimStart cs)

/-- **Blanks at the front do not show.** -/
theorem trim_blanks_append {gap : List Char} (h : ∀ c ∈ gap, isBlank c = true)
    (cs : List Char) : trim (gap ++ cs) = trim cs := by
  rw [trim, trimStart_blanks_append h, trim]

/-- Only a line of blanks is trimmed to nothing. -/
theorem trim_eq_nil_iff {cs : List Char} : trim cs = [] ↔ ∀ c ∈ cs, isBlank c = true := by
  unfold trim trimEnd
  rw [List.reverse_eq_nil_iff, List.dropWhile_eq_nil_iff]
  constructor
  · intro h
    by_cases hcs : trimStart cs = []
    · exact trimStart_eq_nil_iff.mp hcs
    · -- the character at which trimming stopped would be blank
      have hhead : isBlank ((trimStart cs).head hcs) = false :=
        List.head_dropWhile_not isBlank hcs
      have hblank := h _ (List.mem_reverse.mpr (List.head_mem hcs))
      rw [hhead] at hblank
      contradiction
  · intro h
    rw [trimStart_eq_nil_iff.mpr h]
    intro c hc
    contradiction

/-- What is trimmed off at the end are blanks. -/
theorem exists_trimStart_eq (cs : List Char) :
    ∃ gap, (∀ c ∈ gap, isBlank c = true) ∧ trimStart cs = trim cs ++ gap := by
  refine ⟨((trimStart cs).reverse.takeWhile isBlank).reverse, fun c hc => ?_, ?_⟩
  · exact List.mem_takeWhile_imp (List.mem_reverse.mp hc)
  · rw [trim, trimEnd, ← List.reverse_append, List.takeWhile_append_dropWhile, List.reverse_reverse]

/-- What is left does not end in a blank. -/
theorem isBlank_getLast?_trim (cs : List Char) : ∀ c ∈ (trim cs).getLast?, isBlank c = false := by
  intro c hc
  rw [trim, trimEnd, List.getLast?_reverse] at hc
  have hfirst := List.head?_dropWhile_not isBlank (trimStart cs).reverse
  rw [Option.mem_def.mp hc] at hfirst
  exact hfirst

/-- What is left is a part of the line, without gaps. -/
theorem trim_infix_self (cs : List Char) : trim cs <:+: cs := by
  obtain ⟨gap, -, htrim⟩ := exists_trimStart_eq cs
  refine ⟨cs.takeWhile isBlank, gap, ?_⟩
  rw [List.append_assoc, ← htrim, trimStart, List.takeWhile_append_dropWhile]

/-- Once trimmed, nothing more is trimmed off. -/
theorem trim_trim (cs : List Char) : trim (trim cs) = trim cs := by
  obtain ⟨gap, hgap, htrim⟩ := exists_trimStart_eq cs
  have hlead : ∀ c ∈ cs.takeWhile isBlank, isBlank c = true := fun c hc => List.mem_takeWhile_imp hc
  calc trim (trim cs) = trim (trimStart cs) := by rw [htrim, trim_append_blanks hgap]
    _ = trim (cs.takeWhile isBlank ++ trimStart cs) := (trim_blanks_append hlead _).symm
    _ = trim cs := by rw [trimStart, List.takeWhile_append_dropWhile]

/-- **A last character that is no blank stays, and so do the blanks before it.** -/
theorem exists_trim_concat {c : Char} (hc : isBlank c = false) (cs : List Char) :
    ∃ gap, (∀ b ∈ gap, isBlank b = true) ∧ trim (cs ++ [c]) = trim cs ++ (gap ++ [c]) := by
  obtain ⟨gap, hgap, htrim⟩ := exists_trimStart_eq cs
  have hfirst : [c].dropWhile isBlank = [c] := List.dropWhile_cons_of_neg (by simp [hc])
  have hstart : trimStart (cs ++ [c]) = trimStart cs ++ [c] := by
    rw [trimStart, List.dropWhile_append, hfirst, trimStart]
    by_cases hcs : (cs.dropWhile isBlank).isEmpty = true
    · rw [if_pos hcs, List.isEmpty_iff.mp hcs, List.nil_append]
    · rw [if_neg hcs]
  refine ⟨gap, hgap, ?_⟩
  rw [trim, hstart, trimEnd, List.reverse_append, List.reverse_singleton, List.singleton_append,
    List.dropWhile_cons_of_neg (by simp [hc]), List.reverse_cons, List.reverse_reverse, htrim,
    List.append_assoc]

/-- So it is the last of what is left. -/
theorem suffix_trim_concat {c : Char} (hc : isBlank c = false) (cs : List Char) :
    [c] <:+ trim (cs ++ [c]) := by
  obtain ⟨gap, -, htrim⟩ := exists_trim_concat hc cs
  rw [htrim, ← List.append_assoc]
  exact List.suffix_append _ _

end ShaderLint.Text
