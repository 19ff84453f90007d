/-
Texts that differ in their blanks.

A gap, a run of blanks that is not empty, may be replaced by any other gap, and the blanks at the
end of a text by any others or by none. Two texts that differ in no more than that are related by
`Respaced`, and they hold the same declarations in the same order: a declaration asks for a gap
between its keyword and its name but not for which, and its keyword and its name have no blank in
them. So a reading of the one text is a reading of the other (`read?_respaced`), and the two walks
go through the texts side by side, both at a character that the texts have in common or each in a
gap of its own (`search_respaced`).

What a walk knows of a gap that it has passed is that a word may begin after it, and that it knows
at the beginning of a text too. So blanks put before a text do not show either (`search_blanks`).
-/
import ShaderLint.Proofs.Appending

set_option autoImplicit false

namespace ShaderLint

namespace Text

/-! ## The relation -/

/-- The second text is the first with other blanks in its gaps and at its end. -/
inductive Respaced : List Char → List Char → Prop
  /-- What is left of both texts is blank. -/
  | ends {g g' : List Char} : (∀ c ∈ g, isBlank c = true) → (∀ c ∈ g', isBlank c = true) →
      Respaced g g'
  /-- A character of both texts. -/
  | char (c : Char) {cs cs' : List Char} : Respaced cs cs' → Respaced (c :: cs) (c :: cs')
  /-- A gap in place of another. -/
  | gap {g g' cs cs' : List Char} : g ≠ [] → g' ≠ [] → (∀ c ∈ g, isBlank c = true) →
      (∀ c ∈ g', isBlank c = true) → Respaced cs cs' → Respaced (g ++ cs) (g' ++ cs')

namespace Respaced

theorem symm {cs cs' : List Char} (h : Respaced cs cs') : Respaced cs' cs := by
  induction h with
  | ends hg hg' => exact .ends hg' hg
  | char c _ ih => exact .char c ih
  | gap hne hne' hg hg' _ ih => exact .gap hne' hne hg' hg ih

/-- A text may be put before both. -/
theorem append_left (u : List Char) {cs cs' : List Char} (h : Respaced cs cs') :
    Respaced (u ++ cs) (u ++ cs') := by
  induction u with
  | nil => exact h
  | cons c u ih => exact .char c ih

/-! ## Reading both texts

A character that is no blank stands in both texts. So does a text without blanks, and after a gap
in the one there is what comes after a gap in the other. -/

theorem of_cons {c : Char} {cs t : List Char} (hc : isBlank c = false)
    (h : Respaced (c :: cs) t) : ∃ cs', t = c :: cs' ∧ Respaced cs cs' := by
  generalize hs : c :: cs = s at h
  cases h with
  | ends hg hg' =>
    rw [← hs] at hg
    rw [(List.forall_mem_cons.mp hg).1] at hc
    contradiction
  | char c' hrest =>
    rw [List.cons.injEq] at hs
    rw [← hs.1, hs.2]
    exact ⟨_, rfl, hrest⟩
  | @gap g g' cs₁ cs₁' hne hne' hg hg' hrest =>
    rcases g with _ | ⟨b, g⟩
    · contradiction
    · rw [List.cons_append, List.cons.injEq] at hs
      rw [hs.1, (List.forall_mem_cons.mp hg).1] at hc
      contradiction

theorem of_append {u cs t : List Char} (hu : ∀ c ∈ u, isBlank c = false)
    (h : Respaced (u ++ cs) t) : ∃ cs', t = u ++ cs' ∧ Respaced cs cs' := by
  induction u generalizing t with
  | nil => exact ⟨t, rfl, h⟩
  | cons c u ih =>
    obtain ⟨hc, hrest⟩ := List.forall_mem_cons.mp hu
    obtain ⟨t₁, rfl, h₁⟩ := of_cons hc h
    obtain ⟨cs', rfl, hcs⟩ := ih hrest h₁
    exact ⟨cs', rfl, hcs⟩

theorem trimStart {s t : List Char} (h : Respaced s t) :
    Respaced (trimStart s) (trimStart t) := by
  induction h with
  | ends hg hg' =>
    rw [trimStart_eq_nil_iff.mpr hg, trimStart_eq_nil_iff.mpr hg']
    exact .ends (List.forall_mem_nil _) (List.forall_mem_nil _)
  | @char c cs cs' h ih =>
    by_cases hc : isBlank c = true
    · rw [Text.trimStart, List.dropWhile_cons_of_pos hc, Text.trimStart,
        List.dropWhile_cons_of_pos hc]
      exact ih
    · rw [Text.trimStart, List.dropWhile_cons_of_neg hc, Text.trimStart,
        List.dropWhile_cons_of_neg hc]
      exact .char c h
  | gap _ _ hg hg' _ ih =>
    rw [trimStart_blanks_append hg, trimStart_blanks_append hg']
    exact ih

/-- A gap, read up to a character that is no blank, is a gap in the other text. -/
theorem of_blanks_append {g cs t : List Char} {c : Char} (hg : ∀ b ∈ g, isBlank b = true)
    (hc : isBlank c = false) (h : Respaced (g ++ c :: cs) t) :
    ∃ g' cs', t = g' ++ c :: cs' ∧ (∀ b ∈ g', isBlank b = true) ∧ (g ≠ [] → g' ≠ [])
      ∧ Respaced cs cs' := by
  have htrim := h.trimStart
  rw [trimStart_blanks_append hg, Text.trimStart, List.dropWhile_cons_of_neg (by simp [hc])]
    at htrim
  obtain ⟨cs', hcs', hrest⟩ := of_cons hc htrim
  refine ⟨t.takeWhile isBlank, cs', ?_, fun b hb => List.mem_takeWhile_imp hb, ?_, hrest⟩
  · rw [← hcs', Text.trimStart, List.takeWhile_append_dropWhile]
  · -- without a gap the other text would begin with `c`, and so would this one
    intro hne hnil
    have ht : t = c :: cs' := by
      rw [← hcs', Text.trimStart, ← List.nil_append (t.dropWhile isBlank), ← hnil,
        List.takeWhile_append_dropWhile]
    rw [ht] at h
    obtain ⟨cs₁, hcs₁, -⟩ := of_cons hc h.symm
    rcases g with _ | ⟨b, g⟩
    · exact hne rfl
    · rw [List.cons_append, List.cons.injEq] at hcs₁
      rw [← hcs₁.1, (List.forall_mem_cons.mp hg).1] at hc
      contradiction

end Respaced
end Text

namespace Declaration

open Text

variable {d : Declaration} {Name : String → Prop}

/-! ## A walk past a gap -/

/-- Of what lies behind it, a walk asks only whether a keyword may begin. -/
theorem search_congr {before before' : Option Char} (h : boundary before = boundary before')
    (cs : List Char) : d.search before cs = d.search before' cs := by
  rcases cs with _ | ⟨c, cs⟩
  · rfl
  · rw [search, search, h]

theorem boundary_of_isBlank {c : Char} (hc : isBlank c = true) : boundary (some c) = true := by
  rw [boundary, Option.any_some, isWord_of_isBlank hc]
  rfl

section Keyword

variable (hk : IsWordName d.keyword)

include hk

/-- No declaration begins with a blank. -/
theorem read?_blank {c : Char} (hc : isBlank c = true) (cs : List Char) :
    d.read? (c :: cs) = none := by
  rcases hkey : d.keyword.toList with _ | ⟨l, ls⟩
  · exact absurd hkey hk.1
  · have hl : isWord l = true := hk.2 l (by rw [hkey]; exact List.mem_cons_self)
    have hne : l ≠ c := by
      rintro rfl
      rw [isBlank_of_isWord hl] at hc
      contradiction
    rw [read?, hkey, after?, if_neg hne]
    rfl

/-- **A walk that has passed a gap stands as at the beginning of a text.** -/
theorem search_blanks {g : List Char} (hg : ∀ c ∈ g, isBlank c = true) (hne : g ≠ [])
    (before : Option Char) (cs : List Char) : d.search before (g ++ cs) = d.search none cs := by
  induction g generalizing before with
  | nil => exact absurd rfl hne
  | cons c g ih =>
    obtain ⟨hc, hrest⟩ := List.forall_mem_cons.mp hg
    rw [List.cons_append, search, read?_blank hk hc]
    by_cases hnil : g = []
    · rw [hnil, List.nil_append]
      exact search_congr (boundary_of_isBlank hc) cs
    · exact ih hrest hnil (some c)

/-- Blanks before a text do not show. -/
theorem find?_blanks_append {g : List Char} (hg : ∀ c ∈ g, isBlank c = true) (cs : List Char) :
    d.find? (g ++ cs) = d.find? cs := by
  by_cases hnil : g = []
  · rw [hnil, List.nil_append]
  · exact search_blanks hk hg hnil none cs

end Keyword

/-! ## Two walks side by side -/

section Respaced

variable (hd : d.Fits Name) (hk : IsWordName d.keyword) {cs cs' : List Char}

include hd hk

/-- A declaration at the front of a text is one at the front of the other. -/
theorem read?_of_respaced (h : Respaced cs cs') {name : String} (hread : d.read? cs = some name) :
    d.read? cs' = some name := by
  rw [read?_eq_some_iff hd] at hread ⊢
  obtain ⟨gap, pad, post, rfl, hne, hgap, hpad, hname⟩ := hread
  obtain ⟨hnameNe, hnameWord⟩ := ((hd.name_iff name).mp hname).1
  -- the parts one after the other: keyword, gap and name, blanks and mark
  obtain ⟨t, rfl, ht⟩ := h.of_append fun c hc => isBlank_of_isWord (hk.2 c hc)
  rcases hchars : name.toList with _ | ⟨c, rest⟩
  · contradiction
  · rw [hchars] at ht hnameWord
    obtain ⟨hc, hrest⟩ := List.forall_mem_cons.mp hnameWord
    obtain ⟨gap', u, rfl, hgap', hne', hu⟩ :=
      Respaced.of_blanks_append hgap (isBlank_of_isWord hc) ht
    obtain ⟨v, rfl, hv⟩ := hu.of_append fun b hb => isBlank_of_isWord (hrest b hb)
    obtain ⟨pad', post', rfl, hpad', -, -⟩ := Respaced.of_blanks_append hpad hd.mark_blank hv
    exact ⟨gap', pad', post', rfl, hne' hne, hgap', hpad', hname⟩

/-- **What is read at the front of a text does not depend on which blanks it has.** -/
theorem read?_respaced (h : Respaced cs cs') : d.read? cs = d.read? cs' := by
  apply Option.ext
  intro name
  exact ⟨read?_of_respaced hd hk h, read?_of_respaced hd hk h.symm⟩

/-- **Two texts with other blanks hold the same first declaration.** The walks are at a character
that the texts have in common, or each passes a gap of its own. -/
theorem search_respaced (h : Respaced cs cs') {before before' : Option Char}
    (hboundary : boundary before = boundary before') :
    d.search before cs = d.search before' cs' := by
  induction h generalizing before before' with
  | ends hg hg' =>
    -- there is no mark among blanks, and so nothing to find
    have hnone : ∀ (g : List Char) (before : Option Char), (∀ c ∈ g, isBlank c = true) →
        d.search before g = none := by
      intro g before hg
      cases hfound : d.search before g with
      | none => rfl
      | some name =>
        have hblank := hg d.mark (mark_mem_of_search hd hfound)
        rw [hd.mark_blank] at hblank
        contradiction
    rw [hnone _ _ hg, hnone _ _ hg']
  | char c hrest ih =>
    rw [search, search, read?_respaced hd hk (.char c hrest), hboundary, ih rfl]
  | gap hne hne' hg hg' _ ih =>
    rw [search_blanks hk hg hne, search_blanks hk hg' hne', ih rfl]

theorem find?_respaced (h : Respaced cs cs') : d.find? cs = d.find? cs' :=
  search_respaced hd hk h rfl

end Respaced

end Declaration

end ShaderLint
