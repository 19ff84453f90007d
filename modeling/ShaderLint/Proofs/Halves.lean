/-
Texts with halves in them, told by stand-ins.

That a text is known from what it is with either set of stand-ins hangs on one fact: no stand-in of
the one set is in the other, so the two fillings of a text agree at its characters and nowhere else
(`pointsOf_fill`). A text without halves is filled with itself.

A reader of words and blanks takes a stand-in for neither, and so it does with a half
(`IsStandIn.inert`). This is why a source falls into the same parts under both fillings.
-/
import ShaderLint.Text.Half
import ShaderLint.Text.Word

set_option autoImplicit false

namespace ShaderLint.Text

/-! ## Numbers of characters and of halves -/

/-- No character has the number of a half. -/
theorem not_half_toNat (c : Char) : c.toNat < 0xD800 ∨ 0xE000 ≤ c.toNat := by
  have hvalid : c.toNat < 0xD800 ∨ 0xDFFF < c.toNat ∧ c.toNat < 0x110000 := c.valid
  omega

theorem Half.ofNat?_toNat (c : Char) : Half.ofNat? c.toNat = none := by
  have h := not_half_toNat c
  unfold Half.ofNat?
  rw [dif_neg (by omega)]

theorem Half.ofNat?_number (h : Half) : Half.ofNat? (0xD800 + h) = some h := by
  have hlt := h.isLt
  unfold Half.ofNat?
  rw [dif_pos (by omega)]
  simp

@[simp] theorem length_whole (text : String) : (whole text).length = text.length := by
  simp [whole, String.length_toList]

namespace StandIns

variable (set : StandIns)

theorem charOf_toNat (c : Char) : set.charOf c.toNat = c := by
  simp [charOf, Half.ofNat?_toNat]

theorem charOf_number (h : Half) : set.charOf (0xD800 + h) = set.forHalf h := by
  simp [charOf, Half.ofNat?_number]

theorem toNat_forHalf (h : Half) : (set.forHalf h).toNat = set.start + h := by
  have hlt := h.isLt
  have hvalid : (set.start + h).isValidChar := by
    cases set <;> simp only [Nat.isValidChar, start] <;> omega
  unfold forHalf Char.ofNat
  rw [dif_pos hvalid]
  rfl

/-! ## Filling -/

/-- A text without halves is filled with itself. -/
@[simp] theorem fill_whole (text : String) : set.fill (whole text) = text := by
  have hchars : (set.forPoint ∘ Point.char) = id := rfl
  simp [fill, whole, hchars]

end StandIns

/-- The characters at a point tell what the point is. -/
theorem Point.ofPair_forPoint (p : Point) :
    ofPair (StandIns.first.forPoint p) (StandIns.second.forPoint p) = p := by
  cases p with
  | char c => simp [ofPair, StandIns.forPoint]
  | half h =>
    have hfirst := StandIns.first.toNat_forHalf h
    have hsecond := StandIns.second.toNat_forHalf h
    have hne : StandIns.first.forHalf h ≠ StandIns.second.forHalf h := by
      intro heq
      rw [heq, hsecond] at hfirst
      simp [StandIns.start] at hfirst
    simp [ofPair, StandIns.forPoint, hne, hfirst]

/-- **Two fillings tell the text.** -/
theorem pointsOf_fill (points : List Point) :
    pointsOf (StandIns.first.fill points) (StandIns.second.fill points) = points := by
  unfold pointsOf StandIns.fill
  rw [String.toList_ofList, String.toList_ofList, List.zipWith_map, List.zipWith_self]
  simp only [Point.ofPair_forPoint, List.map_id']

/-! ## What a reader takes a stand-in for -/

/-- A character that stands in for a half in one of the sets. -/
abbrev IsStandIn (c : Char) : Prop := 0xE000 ≤ c.toNat ∧ c.toNat < 0xF000

theorem isStandIn_forHalf (set : StandIns) (h : Half) : IsStandIn (set.forHalf h) := by
  have hnumber := set.toNat_forHalf h
  have hlt := h.isLt
  cases set <;> simp only [StandIns.start] at hnumber <;> omega

/-- **A stand-in is neither a part of a word nor a blank.** -/
theorem IsStandIn.inert {c : Char} (h : IsStandIn c) : isWord c = false ∧ isBlank c = false := by
  constructor
  · -- the letters and numbers of the standard leave out the characters for private use
    have htable : ∀ i ∈ wordIntervals, i.2 < 0xE000 ∨ 0xF000 ≤ i.1 := by decide +kernel
    have houtside : inIntervals wordIntervals c.toNat = false := by
      rw [Bool.eq_false_iff]
      intro hin
      obtain ⟨i, hi, hfirst, hlast⟩ := exists_interval_of_inIntervals hin
      have := htable i hi
      omega
    unfold isWord
    rw [if_neg (by omega), houtside]
  · unfold isBlank
    simp only [Bool.or_eq_false_iff, Bool.and_eq_false_iff, decide_eq_false_iff_not,
      beq_eq_false_iff_ne]
    omega

end ShaderLint.Text
