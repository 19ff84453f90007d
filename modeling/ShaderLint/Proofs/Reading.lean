/-
What the steps that read from the front accept.

Each step is pinned down by one equivalence: it succeeds with a rest exactly when the text is what
the step reads, followed by that rest. The texts on the right are written out as concatenations, so
a form that is read in several steps is a concatenation too, and nothing about the steps has to be
opened again (`named?_eq_some_iff`).

Reading the longest run is what makes this an equivalence. A run is the longest one exactly when no
further character of its class follows (`takeWhile_run`, `dropWhile_run`), and the class of what
does follow is known: a word comes after blanks, and blanks or the mark after a word.
-/
import Mathlib.Data.List.TakeWhile
import ShaderLint.Proofs.Trimming
import ShaderLint.Rule.Shape

set_option autoImplicit false

namespace ShaderLint.Text

/-! ## Runs -/

section Run

variable {p : Char → Bool} {run rest : List Char}

theorem takeWhile_run (hrun : ∀ c ∈ run, p c = true) (hrest : ∀ c ∈ rest.head?, p c = false) :
    (run ++ rest).takeWhile p = run := by
  rw [List.takeWhile_append_of_pos hrun]
  rcases rest with _ | ⟨c, rest⟩
  · rw [List.takeWhile_nil, List.append_nil]
  · have hc : p c = false := hrest c rfl
    rw [List.takeWhile_cons_of_neg (by simp [hc]), List.append_nil]

theorem dropWhile_run (hrun : ∀ c ∈ run, p c = true) (hrest : ∀ c ∈ rest.head?, p c = false) :
    (run ++ rest).dropWhile p = rest := by
  rw [List.dropWhile_append_of_pos hrun]
  rcases rest with _ | ⟨c, rest⟩
  · rw [List.dropWhile_nil]
  · have hc : p c = false := hrest c rfl
    rw [List.dropWhile_cons_of_neg (by simp [hc])]

theorem head?_dropWhile (p : Char → Bool) (cs : List Char) :
    ∀ c ∈ (cs.dropWhile p).head?, p c = false := by
  intro c hc
  have h := List.head?_dropWhile_not p cs
  rw [Option.mem_def.mp hc] at h
  exact h

end Run

/-! ## Single steps -/

theorem after?_eq_some_iff {lead cs rest : List Char} :
    after? lead cs = some rest ↔ cs = lead ++ rest := by
  induction lead generalizing cs with
  | nil => rw [after?, Option.some.injEq, List.nil_append]
  | cons l lead ih =>
    rcases cs with _ | ⟨c, cs⟩
    · rw [after?, List.cons_append]
      constructor <;> intro h <;> contradiction
    · rw [after?, List.cons_append, List.cons.injEq]
      by_cases hc : l = c
      · rw [if_pos hc, ih]
        exact ⟨fun h => ⟨hc.symm, h⟩, fun h => h.2⟩
      · rw [if_neg hc]
        constructor
        · intro h
          contradiction
        · intro h
          exact absurd h.1.symm hc

/-- Blanks are read as the whole run of them. -/
theorem afterBlanks?_eq_some_iff {cs rest : List Char} :
    afterBlanks? cs = some rest ↔
      ∃ gap, gap ≠ [] ∧ (∀ c ∈ gap, isBlank c = true) ∧ cs = gap ++ rest
        ∧ ∀ c ∈ rest.head?, isBlank c = false := by
  constructor
  · intro h
    rcases cs with _ | ⟨c, cs⟩
    · contradiction
    · rw [afterBlanks?] at h
      by_cases hc : isBlank c = true
      · rw [if_pos hc, Option.some.injEq] at h
        refine ⟨c :: cs.takeWhile isBlank, List.cons_ne_nil _ _, ?_, ?_, ?_⟩
        · intro b hb
          rcases List.mem_cons.mp hb with rfl | hb
          · exact hc
          · exact List.mem_takeWhile_imp hb
        · rw [← h, trimStart, List.cons_append, List.takeWhile_append_dropWhile]
        · rw [← h]
          exact head?_dropWhile isBlank cs
      · rw [if_neg hc] at h
        contradiction
  · rintro ⟨gap, hne, hgap, rfl, hrest⟩
    rcases gap with _ | ⟨c, gap⟩
    · contradiction
    · rw [List.cons_append, afterBlanks?, if_pos (hgap c List.mem_cons_self), trimStart,
        dropWhile_run (fun b hb => hgap b (List.mem_cons_of_mem c hb)) hrest]

/-- A word is read as the whole run of word characters. -/
theorem word?_eq_some_iff {cs w rest : List Char} :
    word? cs = some (w, rest) ↔
      w ≠ [] ∧ (∀ c ∈ w, isWord c = true) ∧ cs = w ++ rest
        ∧ ∀ c ∈ rest.head?, isWord c = false := by
  rw [word?]
  constructor
  · intro h
    split at h
    · contradiction
    · next c front hfront =>
      rw [Option.some.injEq, Prod.mk.injEq] at h
      obtain ⟨rfl, rfl⟩ := h
      refine ⟨List.cons_ne_nil _ _, ?_, ?_, head?_dropWhile isWord cs⟩
      · rw [← hfront]
        intro b hb
        exact List.mem_takeWhile_imp hb
      · rw [← hfront, List.takeWhile_append_dropWhile]
  · rintro ⟨hne, hw, rfl, hrest⟩
    rw [takeWhile_run hw hrest, dropWhile_run hw hrest]
    rcases w with _ | ⟨c, front⟩
    · contradiction
    · rfl

/-- A mark that is no blank is found past any blanks. -/
theorem opensWith_iff {mark : Char} (hmark : isBlank mark = false) {cs : List Char} :
    opensWith mark cs = true ↔
      ∃ gap rest, (∀ c ∈ gap, isBlank c = true) ∧ cs = gap ++ mark :: rest := by
  rw [opensWith, beq_iff_eq]
  constructor
  · intro h
    obtain ⟨rest, hrest⟩ := List.head?_eq_some_iff.mp h
    refine ⟨cs.takeWhile isBlank, rest, fun c hc => List.mem_takeWhile_imp hc, ?_⟩
    rw [← hrest, trimStart, List.takeWhile_append_dropWhile]
  · rintro ⟨gap, rest, hgap, rfl⟩
    rw [trimStart_blanks_append hgap, trimStart,
      List.dropWhile_cons_of_neg (by simp [hmark])]
    rfl

/-! ## A name between blanks and a mark -/

/-- **The names that can be read.** There is one way to cut the text: the gap is the whole run of
blanks since a word follows it, and the name is the whole run of word characters since a blank or
the mark follows it. -/
theorem named?_eq_some_iff {mark : Char} (hblank : isBlank mark = false)
    (hword : isWord mark = false) {cs name : List Char} :
    named? mark cs = some name ↔
      ∃ gap pad rest, gap ≠ [] ∧ (∀ c ∈ gap, isBlank c = true) ∧ name ≠ []
        ∧ (∀ c ∈ name, isWord c = true) ∧ (∀ c ∈ pad, isBlank c = true)
        ∧ cs = gap ++ (name ++ (pad ++ mark :: rest)) := by
  constructor
  · intro h
    simp only [named?, Option.bind_eq_bind, Option.bind_eq_some_iff, Prod.exists] at h
    obtain ⟨afterGap, hgapRead, w, afterWord, hwordRead, h⟩ := h
    obtain ⟨gap, hne, hgap, hcs, -⟩ := afterBlanks?_eq_some_iff.mp hgapRead
    obtain ⟨hwne, hw, hafterGap, -⟩ := word?_eq_some_iff.mp hwordRead
    -- each step has cut its part off the front; the parts make the text
    by_cases hopens : opensWith mark afterWord = true
    · rw [if_pos hopens, Option.some.injEq] at h
      obtain ⟨pad, rest, hpad, hafterWord⟩ := (opensWith_iff hblank).mp hopens
      rw [← h, hcs, hafterGap, hafterWord]
      exact ⟨gap, pad, rest, hne, hgap, hwne, hw, hpad, rfl⟩
    · rw [if_neg hopens] at h
      contradiction
  · rintro ⟨gap, pad, rest, hne, hgap, hnne, hname, hpad, rfl⟩
    -- where the two runs end
    have hgapEnd : ∀ c ∈ (name ++ (pad ++ mark :: rest)).head?, isBlank c = false := by
      rcases name with _ | ⟨c, name⟩
      · contradiction
      · intro b hb
        rw [List.cons_append, List.head?_cons, Option.mem_some_iff] at hb
        rw [← hb]
        exact isBlank_of_isWord (hname c List.mem_cons_self)
    have hnameEnd : ∀ c ∈ (pad ++ mark :: rest).head?, isWord c = false := by
      rcases pad with _ | ⟨c, pad⟩
      · intro b hb
        rw [List.nil_append, List.head?_cons, Option.mem_some_iff] at hb
        rw [← hb]
        exact hword
      · intro b hb
        rw [List.cons_append, List.head?_cons, Option.mem_some_iff] at hb
        rw [← hb]
        exact isWord_of_isBlank (hpad c List.mem_cons_self)
    have hgapRead := afterBlanks?_eq_some_iff.mpr ⟨gap, hne, hgap, rfl, hgapEnd⟩
    have hnameRead := word?_eq_some_iff.mpr ⟨hnne, hname, rfl, hnameEnd⟩
    have hmark := (opensWith_iff hblank).mpr ⟨pad, rest, hpad, rfl⟩
    simp only [named?, Option.bind_eq_bind, hgapRead, Option.bind_some, hnameRead, hmark, if_true]

end ShaderLint.Text

namespace ShaderLint.Shape

open Text

/-- An ending is read from the back, as a beginning is from the front. -/
theorem endsWith_iff {ending cs : List Char} : endsWith ending cs = true ↔ ending <:+ cs := by
  rw [endsWith, Option.isSome_iff_exists]
  simp only [after?_eq_some_iff]
  rw [← List.reverse_prefix]
  constructor
  · rintro ⟨rest, h⟩
    exact ⟨rest, h.symm⟩
  · rintro ⟨rest, h⟩
    exact ⟨rest, h.symm⟩

end ShaderLint.Shape
