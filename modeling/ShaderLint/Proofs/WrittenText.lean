/-
A written text is read back.

The writer gives each character of a text in one of four forms: as it is, as an escape of two
characters, as an escape by number, or as a pair of these. The reader is given back the character in
each case (`textFrom_escapeChar`), from which the text follows by induction on its characters. The
theory takes in texts with halves of surrogate pairs as well, each written as an escape by number.

What needs care is where an escape by number ends. The reader wants a character after its digits,
and looks past it for the second half of a pair. There is always such a character, since at least
the closing quote is still to come; and a character of its own is never taken for the first half of
a pair, since the numbers of halves are no characters. A half stays alone unless the one after it
makes a pair with it (`Apart`).
-/
import Mathlib.Data.List.Chain
import ShaderLint.Json.Reader
import ShaderLint.Json.Writer
import ShaderLint.Proofs.Halves

set_option autoImplicit false

namespace ShaderLint.Json

/-! ## What is written -/

theorem toList_pushChars (out : String) (cs : List Char) :
    (pushChars out cs).toList = out.toList ++ cs := by
  induction cs generalizing out with
  | nil => exact (List.append_nil _).symm
  | cons c cs ih =>
    have hstep : pushChars out (c :: cs) = pushChars (out.push c) cs := rfl
    rw [hstep, ih, String.toList_push, List.append_assoc]
    rfl

/-- One point of a text, as it is written. -/
def escapePoint : Text.Point → List Char
  | .char c => escapeChar c
  | .half h => escapeUnit (0xD800 + h)

/-- The points of a text and its closing quote, as they are written. -/
def writtenRest (points : List Text.Point) : List Char := points.flatMap escapePoint ++ ['"']

theorem writtenRest_cons (p : Text.Point) (points : List Text.Point) :
    writtenRest (p :: points) = escapePoint p ++ writtenRest points := by
  simp [writtenRest]

/-- Something is still to come in any text that is not closed. -/
theorem exists_writtenRest_append (points : List Text.Point) (rest : List Char) :
    ∃ next more, writtenRest points ++ rest = next :: more := by
  have hne : writtenRest points ++ rest ≠ [] := by simp [writtenRest]
  exact List.exists_cons_of_ne_nil hne

theorem toList_pushText (out s : String) :
    (pushText out s).toList = out.toList ++ '"' :: writtenRest (Text.whole s) := by
  have hfold : ∀ (out : String) (cs : List Char),
      (cs.foldl (fun out c => pushChars out (escapeChar c)) out).toList
        = out.toList ++ cs.flatMap escapeChar := by
    intro out cs
    induction cs generalizing out with
    | nil => exact (List.append_nil _).symm
    | cons c cs ih =>
      rw [List.foldl_cons, ih, toList_pushChars, List.append_assoc, List.flatMap_cons]
  have hpoints : (Text.whole s).flatMap escapePoint = s.toList.flatMap escapeChar := by
    rw [Text.whole, List.flatMap_map]
    rfl
  rw [pushText, String.toList_push, hfold, String.toList_push, writtenRest, hpoints]
  simp only [List.append_assoc, List.cons_append, List.nil_append]

/-! ## Escapes by number -/

/-- Four digits are read back, if anything follows them. -/
theorem fourDigits?_hexDigits {n : Nat} (hn : n < 0x10000) (next : Char) (rest : List Char) :
    fourDigits? (Text.hexDigits 4 n ++ next :: rest) = some (n, next :: rest) := by
  have hdigits : Text.hexDigits 4 n
      = [Text.hexDigit (n / 16 / 16 / 16 % 16), Text.hexDigit (n / 16 / 16 % 16),
        Text.hexDigit (n / 16 % 16), Text.hexDigit (n % 16)] := rfl
  have hvalue : ∀ m : Nat, Text.hexValue? (Text.hexDigit (m % 16)) = some (m % 16) :=
    fun m => Text.hexValue?_hexDigit (m % 16) (Nat.mod_lt m (by decide))
  have hsum : ((n / 16 / 16 / 16 % 16 * 16 + n / 16 / 16 % 16) * 16 + n / 16 % 16) * 16 + n % 16
      = n := by
    omega
  rw [hdigits]
  simp only [List.cons_append, List.nil_append, fourDigits?, hvalue, Option.bind_eq_bind,
    Option.bind_some, hsum]

theorem secondHalf_of_not_high {n : Nat} (hn : Text.isHighHalf n = false) (cs : List Char) :
    secondHalf n cs = .alone := by
  unfold secondHalf
  rw [hn]

/-- An escape by number after a first half is the second half or is none. -/
theorem secondHalf_escapeUnit {high low : Nat} (hhigh : Text.isHighHalf high = true)
    (hlt : low < 0x10000) (next : Char) (rest : List Char) :
    secondHalf high (escapeUnit low ++ next :: rest)
      = if Text.isLowHalf low then .paired low (next :: rest) else .alone := by
  have hfour := fourDigits?_hexDigits hlt next rest
  have hlong : ((Text.hexDigits 4 low ++ next :: rest).drop 4).isEmpty = false := by
    rw [List.drop_append, Text.length_hexDigits]
    simp
  rw [escapeUnit, List.cons_append, List.cons_append, secondHalf.eq_def, hhigh]
  simp only [hfour, hlong, Bool.false_eq_true, if_false]

/-- What begins with no escape by number is no second half. -/
theorem secondHalf_of_not_escape {cs : List Char} (h : ∀ rest, cs ≠ '\\' :: 'u' :: rest) (high : Nat) :
    secondHalf high cs = .alone := by
  unfold secondHalf
  split
  · exact absurd rfl (h _)
  · rfl

/-! ## One character of a text

Each lemma passes over the characters of one form. -/

section Form

variable (set : Text.StandIns) (start : Nat) (read : List Char) (next : Char) (rest : List Char)
  (position : Nat)

theorem textFrom_quote :
    textFrom set start read ('"' :: rest) position
      = .ok (String.ofList read.reverse, ⟨rest, position + 1⟩) := by
  rw [textFrom.eq_def]
  simp only [if_true]

theorem textFrom_plain {c : Char} (hquote : c ≠ '"') (hslash : c ≠ '\\') (hc : 0x20 ≤ c.toNat) :
    textFrom set start read (c :: rest) position
      = textFrom set start (c :: read) rest (position + 1) := by
  rw [textFrom.eq_def]
  simp only [if_neg hquote, if_neg hslash, if_neg (Nat.not_lt.mpr hc)]

theorem textFrom_escaped {e c : Char} (hu : e ≠ 'u') (he : escaped? e = some c) :
    textFrom set start read ('\\' :: e :: rest) position
      = textFrom set start (c :: read) rest (position + 2) := by
  rw [textFrom, if_neg (by decide), if_pos rfl]
  simp only [if_neg hu, he]

/-- Once its four digits are read, an escape by number is settled by what comes after them. -/
theorem textFrom_numbered {n : Nat} {cs after : List Char} (h : fourDigits? cs = some (n, after)) :
    textFrom set start read ('\\' :: 'u' :: cs) position
      = match secondHalf n after with
        | .alone => textFrom set start (set.charOf n :: read) after (position + 6)
        | .paired low more =>
          textFrom set start (Text.charOfPair n low :: read) more (position + 12)
        | .broken => .error ⟨.unicodeEscape, position + 7⟩ := by
  rw [textFrom, if_neg (by decide), if_pos rfl]
  simp only [if_true]
  split
  · rename_i hnone
    rw [h] at hnone
    contradiction
  · rename_i hsome
    rw [h] at hsome
    cases hsome
    split <;> rename_i hsecond <;> rw [hsecond]

/-- An escape by number with no second half after it. -/
theorem textFrom_unit {n : Nat} (hn : n < 0x10000) (halone : secondHalf n (next :: rest) = .alone) :
    textFrom set start read (escapeUnit n ++ next :: rest) position
      = textFrom set start (set.charOf n :: read) (next :: rest) (position + 6) := by
  rw [escapeUnit, List.cons_append, List.cons_append,
    textFrom_numbered set start read position (fourDigits?_hexDigits hn next rest), halone]

theorem textFrom_pair {high low : Nat} (hhigh : Text.isHighHalf high = true)
    (hlow : Text.isLowHalf low = true) (hlt : high < 0x10000) (hlt' : low < 0x10000) :
    textFrom set start read (escapeUnit high ++ (escapeUnit low ++ next :: rest)) position
      = textFrom set start (Text.charOfPair high low :: read) (next :: rest) (position + 12) := by
  have hsecond := secondHalf_escapeUnit hhigh hlt' next rest
  rw [if_pos hlow] at hsecond
  rw [escapeUnit, List.cons_append, List.cons_append] at hsecond ⊢
  rw [escapeUnit, List.cons_append, List.cons_append,
    textFrom_numbered set start read position (fourDigits?_hexDigits hlt _ _), hsecond]

end Form

/-- A character is not written like the first half of a pair. -/
theorem isHighHalf_toNat (c : Char) : Text.isHighHalf c.toNat = false := by
  have h := Text.not_half_toNat c
  simp only [Text.isHighHalf, Bool.and_eq_false_iff, decide_eq_false_iff_not]
  omega

theorem isLowHalf_toNat (c : Char) : Text.isLowHalf c.toNat = false := by
  have h := Text.not_half_toNat c
  simp only [Text.isLowHalf, Bool.and_eq_false_iff, decide_eq_false_iff_not]
  omega

/-- The characters that are written as a backslash and a letter or mark, with that letter or mark. -/
def shortEscapes : List (Char × Char) :=
  [('"', '"'), ('\\', '\\'), ('\n', 'n'), ('\r', 'r'), ('\t', 't'), ('\x08', 'b'), ('\x0c', 'f')]

theorem escapeChar_short : ∀ e ∈ shortEscapes,
    escapeChar e.1 = ['\\', e.2] ∧ e.2 ≠ 'u' ∧ escaped? e.2 = some e.1 := by decide

/-- The two halves of the pair that a character above sixteen bits is written as: its number takes
twenty bits more, ten for each half. -/
theorem exists_pair {c : Char} (hc : ¬ c.toNat < 0x10000) :
    ∃ high low, Text.isHighHalf high = true ∧ Text.isLowHalf low = true
      ∧ high < 0x10000 ∧ low < 0x10000 ∧ Text.charOfPair high low = c
      ∧ (0xD800 + (c.toNat - 0x10000) / 0x400 = high ∧ 0xDC00 + (c.toNat - 0x10000) % 0x400 = low) := by
  have hvalid : c.toNat < 0xD800 ∨ 0xDFFF < c.toNat ∧ c.toNat < 0x110000 := c.valid
  refine ⟨_, _, ?_, ?_, ?_, ?_, ?_, rfl, rfl⟩
  · simp only [Text.isHighHalf, Bool.and_eq_true, decide_eq_true_eq]
    omega
  · simp only [Text.isLowHalf, Bool.and_eq_true, decide_eq_true_eq]
    omega
  · omega
  · omega
  · have hsum : 0x10000 + (0xD800 + (c.toNat - 0x10000) / 0x400 - 0xD800) * 0x400
        + (0xDC00 + (c.toNat - 0x10000) % 0x400 - 0xDC00) = c.toNat := by
      omega
    rw [Text.charOfPair, hsum]
    exact Char.ofNat_toNat c

/-- The four forms in which a character is written. -/
inductive Form (c : Char) : List Char → Prop where
  | short {e : Char} (hu : e ≠ 'u') (he : escaped? e = some c) : Form c ['\\', e]
  | plain (hquote : c ≠ '"') (hslash : c ≠ '\\') (hc : 0x20 ≤ c.toNat) : Form c [c]
  | unit (hc : c.toNat < 0x10000) : Form c (escapeUnit c.toNat)
  | pair {high low : Nat} (hhigh : Text.isHighHalf high = true) (hlow : Text.isLowHalf low = true)
      (hlt : high < 0x10000) (hlt' : low < 0x10000) (hc : Text.charOfPair high low = c) :
      Form c (escapeUnit high ++ escapeUnit low)

theorem form_escapeChar (c : Char) : Form c (escapeChar c) := by
  by_cases hshort : ∃ e ∈ shortEscapes, c = e.1
  · obtain ⟨e, he, rfl⟩ := hshort
    obtain ⟨hwritten, hu, hescaped⟩ := escapeChar_short e he
    rw [hwritten]
    exact .short hu hescaped
  · have hother : ∀ e ∈ shortEscapes, c ≠ e.1 := fun e he hc => hshort ⟨e, he, hc⟩
    simp only [shortEscapes, List.forall_mem_cons] at hother
    obtain ⟨hquote, hslash, hfeed, hreturn, htab, hback, hform, -⟩ := hother
    simp only [escapeChar, hquote, hslash, hfeed, hreturn, htab, hback, hform, or_self, if_false]
    split
    · rename_i hplain
      exact .plain hquote hslash hplain.1
    split
    · rename_i hunit
      exact .unit hunit
    · rename_i hunit
      obtain ⟨high, low, hhigh, hlow, hlt, hlt', hc, rfl, rfl⟩ := exists_pair hunit
      exact .pair hhigh hlow hlt hlt' hc

/-- **One character.** In whatever form it is written, it is what is read. -/
theorem textFrom_escapeChar (set : Text.StandIns) (start : Nat) (read : List Char) (c next : Char)
    (rest : List Char) (position : Nat) :
    ∃ after, textFrom set start read (escapeChar c ++ next :: rest) position
      = textFrom set start (c :: read) (next :: rest) after := by
  have hform := form_escapeChar c
  generalize escapeChar c = written at hform ⊢
  cases hform with
  | short hu he => exact ⟨_, textFrom_escaped set start read _ position hu he⟩
  | plain hquote hslash hc => exact ⟨_, textFrom_plain set start read _ position hquote hslash hc⟩
  | unit hc =>
    have hread := textFrom_unit set start read next rest position hc
      (secondHalf_of_not_high (isHighHalf_toNat c) _)
    rw [Text.StandIns.charOf_toNat] at hread
    exact ⟨_, hread⟩
  | pair hhigh hlow hlt hlt' hc =>
    have hread := textFrom_pair set start read next rest position hhigh hlow hlt hlt'
    rw [hc] at hread
    rw [List.append_assoc]
    exact ⟨_, hread⟩

/-! ## Halves -/

/-- The first half of a pair and the second. -/
def Pairs : Text.Point → Text.Point → Prop
  | .half a, .half b => a.val < 0x400 ∧ 0x400 ≤ b.val
  | _, _ => False

/-- No half makes a pair with the one after it. -/
def Apart (points : List Text.Point) : Prop := points.IsChain fun p q => ¬ Pairs p q

theorem apart_whole (text : String) : Apart (Text.whole text) := by
  unfold Apart Text.whole
  rw [List.isChain_map]
  exact (List.pairwise_of_forall fun _ _ => id).isChain

/-- What begins with a point that is no second half has none at its front. -/
theorem secondHalf_writtenRest {high : Nat} {points : List Text.Point}
    (h : ∀ b : Text.Half, points.head? = some (.half b) → b.val < 0x400) (rest : List Char) :
    secondHalf high (writtenRest points ++ rest) = .alone := by
  by_cases hhigh : Text.isHighHalf high = true
  · rcases points with _ | ⟨p, points⟩
    · refine secondHalf_of_not_escape ?_ high
      simp [writtenRest]
    · obtain ⟨next, more, hmore⟩ := exists_writtenRest_append points rest
      -- an escape by number comes next, or none
      have hunit : ∀ {low : Nat} (tail : List Char), low < 0x10000 → Text.isLowHalf low = false →
          secondHalf high (escapeUnit low ++ (tail ++ next :: more)) = .alone := by
        intro low tail hlt hlow
        obtain ⟨c, cs, hcs⟩ : ∃ c cs, tail ++ next :: more = c :: cs :=
          List.exists_cons_of_ne_nil (by simp)
        rw [hcs, secondHalf_escapeUnit hhigh hlt, hlow]
        rfl
      rw [writtenRest_cons, List.append_assoc, hmore]
      cases p with
      | half b =>
        have hb := h b rfl
        refine hunit [] (by omega) ?_
        simp only [Text.isLowHalf, Bool.and_eq_false_iff, decide_eq_false_iff_not]
        omega
      | char c =>
        have hform := form_escapeChar c
        rw [escapePoint]
        generalize escapeChar c = written at hform ⊢
        cases hform with
        | short hu he =>
          refine secondHalf_of_not_escape ?_ high
          simp [hu]
        | plain hquote hslash hc =>
          refine secondHalf_of_not_escape ?_ high
          simp [hslash]
        | unit hc => exact hunit [] hc (isLowHalf_toNat c)
        | pair hhigh' hlow hlt hlt' hc =>
          rw [List.append_assoc]
          refine hunit _ hlt ?_
          simp only [Text.isHighHalf, Bool.and_eq_true, decide_eq_true_eq] at hhigh'
          simp only [Text.isLowHalf, Bool.and_eq_false_iff, decide_eq_false_iff_not]
          omega
  · exact secondHalf_of_not_high (Bool.eq_false_iff.mpr hhigh) _

/-- **One point.** It is read as what stands in for it, if it makes no pair with the next. -/
theorem textFrom_escapePoint (set : Text.StandIns) (start : Nat) (read : List Char)
    {p : Text.Point} {points : List Text.Point} (h : Apart (p :: points)) (rest : List Char)
    (position : Nat) :
    ∃ after, textFrom set start read (escapePoint p ++ (writtenRest points ++ rest)) position
      = textFrom set start (set.forPoint p :: read) (writtenRest points ++ rest) after := by
  obtain ⟨next, more, hmore⟩ := exists_writtenRest_append points rest
  cases p with
  | char c =>
    rw [hmore]
    exact textFrom_escapeChar set start read c next more position
  | half a =>
    have hlt : 0xD800 + a.val < 0x10000 := by omega
    have halone : secondHalf (0xD800 + a) (writtenRest points ++ rest) = .alone := by
      by_cases ha : a.val < 0x400
      · refine secondHalf_writtenRest ?_ rest
        intro b hb
        by_contra hlow
        exact h.rel_head? hb ⟨ha, Nat.not_lt.mp hlow⟩
      · refine secondHalf_of_not_high ?_ _
        simp only [Text.isHighHalf, Bool.and_eq_false_iff, decide_eq_false_iff_not]
        omega
    rw [hmore] at halone ⊢
    have hread := textFrom_unit set start read next more position hlt halone
    rw [Text.StandIns.charOf_number] at hread
    exact ⟨_, hread⟩

/-- **A text.** What is written of it is read up to its closing quote. -/
theorem textFrom_writtenRest (set : Text.StandIns) (start : Nat) (read : List Char)
    {points : List Text.Point} (h : Apart points) (rest : List Char) (position : Nat) :
    ∃ after, textFrom set start read (writtenRest points ++ rest) position
      = .ok (String.ofList (read.reverse ++ points.map set.forPoint), ⟨rest, after⟩) := by
  induction points generalizing read position with
  | nil =>
    rw [List.map_nil, List.append_nil]
    exact ⟨_, textFrom_quote set start read rest position⟩
  | cons p points ih =>
    obtain ⟨after, hread⟩ := textFrom_escapePoint set start read h rest position
    obtain ⟨last, hlast⟩ := ih (set.forPoint p :: read) h.tail after
    refine ⟨last, ?_⟩
    rw [writtenRest_cons, List.append_assoc, hread, hlast, List.reverse_cons, List.append_assoc]
    rfl

theorem textAfterQuote_writtenRest (set : Text.StandIns) {points : List Text.Point}
    (h : Apart points) (rest : List Char) (position : Nat) :
    ∃ after, textAfterQuote set ⟨writtenRest points ++ rest, position⟩
      = .ok (set.fill points, ⟨rest, after⟩) := by
  obtain ⟨after, hread⟩ := textFrom_writtenRest set (position - 1) [] h rest position
  exact ⟨after, hread⟩

end ShaderLint.Json
