/-
The first declaration of a source.

A declaration is told here by the text that it is: the keyword, blanks, the name, blanks or none,
and the mark, at a place where the keyword is not the tail of a longer word (`Written`). The search
walks through the source and reads at every place. That what it finds is the *first* declaration is
a fact about the whole walk, `search_leftmost`: an attempt that fails half-way is given up and the
walk goes on one character further, so no place is left out.

There are two things to get right. The reading at one place has at most one result, which comes
from the runs (`read?_eq_some_iff`). And the walk knows of what lies behind it only the last
character, which is all that the word boundary asks for: the induction is stated for a source that
is cut anywhere, the walk being given the last character of the first part.
-/
import ShaderLint.Classify
import ShaderLint.Proofs.Reading

set_option autoImplicit false

namespace ShaderLint

open Text

namespace Declaration

/-! ## Declarations as texts -/

/-- A word: word characters, and at least one. -/
def IsWordName (name : String) : Prop := name.toList ≠ [] ∧ ∀ c ∈ name.toList, isWord c = true

/-- In the source a declaration of a name stands written after `pre`: no word character comes
directly before, blanks part the keyword from the name, and blanks or nothing the name from the
mark. The line feed is a blank like any other. -/
def Written (keyword : String) (mark : Char) (Name : String → Prop) (source pre : List Char)
    (name : String) : Prop :=
  ∃ gap pad post,
    source = pre ++ (keyword.toList ++ (gap ++ (name.toList ++ (pad ++ mark :: post))))
    ∧ (∀ c ∈ pre.getLast?, isWord c = false)
    ∧ gap ≠ [] ∧ (∀ c ∈ gap, isBlank c = true) ∧ (∀ c ∈ pad, isBlank c = true) ∧ Name name

/-- Of the places where something is written, the one with the least before it. -/
def IsFirst (P : List Char → String → Prop) (pre : List Char) (name : String) : Prop :=
  P pre name ∧ ∀ pre' name', P pre' name' → pre.length ≤ pre'.length

/-- What makes a form of declarations readable in one way only: its mark is neither blank nor a
word character, and its names are words. -/
structure Fits (d : Declaration) (Name : String → Prop) : Prop where
  mark_blank : isBlank d.mark = false
  mark_word : isWord d.mark = false
  name_iff : ∀ name, Name name ↔ IsWordName name ∧ d.admits name = true

theorem shaderType_fits : shaderType.Fits IsWordName where
  mark_blank := by decide
  mark_word := by decide
  name_iff name := ⟨fun h => ⟨h, rfl⟩, fun h => h.1⟩

/-- The entry points of the dialect are words. -/
theorem isWordName_of_entryPoint {name : String} (h : name ∈ Dialect.entryPoints) :
    IsWordName name := by
  have hall : Dialect.entryPoints.all
      (fun entry => !entry.toList.isEmpty && entry.toList.all isWord) = true := by decide
  have hname := List.all_eq_true.mp hall name h
  rw [Bool.and_eq_true, Bool.not_eq_true', List.isEmpty_eq_false_iff, List.all_eq_true] at hname
  exact hname

theorem entryPoint_fits : entryPoint.Fits (· ∈ Dialect.entryPoints) where
  mark_blank := by decide
  mark_word := by decide
  name_iff name := by
    have hadmits : entryPoint.admits name = true ↔ name ∈ Dialect.entryPoints :=
      List.contains_iff_mem
    rw [hadmits]
    exact ⟨fun h => ⟨isWordName_of_entryPoint h, h⟩, fun h => h.2⟩

/-! ## Reading at one place -/

/-- **What is read at the front of a text.** -/
theorem read?_eq_some_iff {d : Declaration} {Name : String → Prop} (hd : d.Fits Name)
    {cs : List Char} {name : String} :
    d.read? cs = some name ↔
      ∃ gap pad post, cs = d.keyword.toList ++ (gap ++ (name.toList ++ (pad ++ d.mark :: post)))
        ∧ gap ≠ [] ∧ (∀ c ∈ gap, isBlank c = true) ∧ (∀ c ∈ pad, isBlank c = true)
        ∧ Name name := by
  rw [hd.name_iff]
  simp only [read?, Option.bind_eq_bind, Option.bind_eq_some_iff, after?_eq_some_iff,
    named?_eq_some_iff hd.mark_blank hd.mark_word]
  constructor
  · rintro ⟨rest, hcs, read, ⟨gap, pad, post, hgapne, hgap, hne, hword, hpad, hrest⟩, hadmits⟩
    by_cases h : d.admits (String.ofList read) = true
    · rw [if_pos h, Option.some.injEq] at hadmits
      rw [← hadmits, IsWordName, String.toList_ofList]
      exact ⟨gap, pad, post, by rw [hcs, hrest], hgapne, hgap, hpad, ⟨hne, hword⟩, h⟩
    · rw [if_neg h] at hadmits
      contradiction
  · rintro ⟨gap, pad, post, hcs, hgapne, hgap, hpad, ⟨hne, hword⟩, hadmits⟩
    refine ⟨_, hcs, name.toList, ⟨gap, pad, post, hgapne, hgap, hne, hword, hpad, rfl⟩, ?_⟩
    rw [String.ofList_toList, if_pos hadmits]

/-- A declaration is read after `pre`: the keyword may begin there, and what is left begins with
the declaration. -/
def StandsAt (d : Declaration) (pre rest : List Char) (name : String) : Prop :=
  boundary pre.getLast? = true ∧ d.read? rest = some name

/-- A declaration that stands in a source is one that is written there. -/
theorem written_iff {d : Declaration} {Name : String → Prop} (hd : d.Fits Name)
    {source pre : List Char} {name : String} :
    Written d.keyword d.mark Name source pre name ↔
      ∃ rest, source = pre ++ rest ∧ d.StandsAt pre rest name := by
  have hboundary : boundary pre.getLast? = true ↔ ∀ c ∈ pre.getLast?, isWord c = false := by
    rw [boundary, Bool.not_eq_true']
    cases pre.getLast? with
    | none => exact ⟨fun _ c hc => absurd hc (Option.not_mem_none c), fun _ => rfl⟩
    | some c =>
      rw [Option.any_some]
      exact ⟨fun h b hb => Option.mem_some_iff.mp hb ▸ h, fun h => h c rfl⟩
  simp only [StandsAt, hboundary, read?_eq_some_iff hd]
  constructor
  · rintro ⟨gap, pad, post, hsource, hpre, hrest⟩
    exact ⟨_, hsource, hpre, gap, pad, post, rfl, hrest⟩
  · rintro ⟨rest, hsource, hpre, gap, pad, post, hcs, hrest⟩
    exact ⟨gap, pad, post, by rw [hsource, hcs], hpre, hrest⟩

/-- At one place one name is written at most. -/
theorem written_unique {d : Declaration} {Name : String → Prop} (hd : d.Fits Name)
    {source pre : List Char} {name name' : String}
    (h : Written d.keyword d.mark Name source pre name)
    (h' : Written d.keyword d.mark Name source pre name') : name = name' := by
  obtain ⟨rest, hsource, -, hread⟩ := (written_iff hd).mp h
  obtain ⟨rest', hsource', -, hread'⟩ := (written_iff hd).mp h'
  have hrest : rest = rest' := List.append_cancel_left (hsource.symm.trans hsource')
  rw [hrest, hread'] at hread
  exact (Option.some.inj hread).symm

/-! ## The walk through a source -/

theorem read?_nil (d : Declaration) : d.read? [] = none := by
  rw [read?]
  rcases d.keyword.toList with _ | ⟨l, ls⟩ <;> rfl

/-- One place of the walk: either the declaration stands here, or the walk goes on. -/
theorem search_cons (d : Declaration) (pre cs : List Char) (c : Char) :
    (∃ name, d.StandsAt pre (c :: cs) name ∧ d.search pre.getLast? (c :: cs) = some name)
    ∨ ((∀ name, ¬ d.StandsAt pre (c :: cs) name)
      ∧ d.search pre.getLast? (c :: cs) = d.search (pre ++ [c]).getLast? cs) := by
  rw [List.getLast?_concat]
  simp only [search, StandsAt]
  cases hread : d.read? (c :: cs) with
  | none =>
    right
    refine ⟨?_, rfl⟩
    rintro name ⟨-, h⟩
    contradiction
  | some found =>
    by_cases hboundary : boundary pre.getLast? = true
    · left
      exact ⟨found, ⟨hboundary, rfl⟩, if_pos hboundary⟩
    · right
      exact ⟨fun name h => hboundary h.1, if_neg hboundary⟩

/-- **The walk finds the leftmost declaration, and finds none only where there is none.** The
source is cut in two and the walk goes through the second part; `q` is what it has passed over. -/
theorem search_leftmost (d : Declaration) (pre cs : List Char) :
    match d.search pre.getLast? cs with
    | some name => ∃ q rest, cs = q ++ rest ∧ d.StandsAt (pre ++ q) rest name
        ∧ ∀ q' rest' name', cs = q' ++ rest' → d.StandsAt (pre ++ q') rest' name' →
          q.length ≤ q'.length
    | none => ∀ q rest name, cs = q ++ rest → ¬ d.StandsAt (pre ++ q) rest name := by
  induction cs generalizing pre with
  | nil =>
    rw [search]
    rintro q rest name hcs ⟨-, hread⟩
    obtain ⟨rfl, rfl⟩ := List.append_eq_nil_iff.mp hcs.symm
    rw [read?_nil] at hread
    contradiction
  | cons c cs ih =>
    rcases search_cons d pre cs c with ⟨name, hstands, hsearch⟩ | ⟨hnot, hsearch⟩
    · rw [hsearch]
      -- nothing has been passed over, so nothing stands further left
      refine ⟨[], c :: cs, rfl, ?_, fun q' _ _ _ _ => Nat.zero_le q'.length⟩
      rw [List.append_nil]
      exact hstands
    · -- nothing stands here, so whatever stands further on has passed over this character
      have hpassed : ∀ q rest name, c :: cs = q ++ rest → d.StandsAt (pre ++ q) rest name →
          ∃ q₁, q = c :: q₁ ∧ cs = q₁ ++ rest ∧ d.StandsAt (pre ++ [c] ++ q₁) rest name := by
        intro q rest name hcs hstands
        rcases q with _ | ⟨b, q₁⟩
        · rw [List.nil_append] at hcs
          rw [List.append_nil, ← hcs] at hstands
          exact absurd hstands (hnot name)
        · rw [List.cons_append, List.cons.injEq] at hcs
          obtain ⟨rfl, hcs⟩ := hcs
          rw [List.append_cons] at hstands
          exact ⟨q₁, rfl, hcs, hstands⟩
      have hrest := ih (pre ++ [c])
      rw [hsearch]
      cases hfound : d.search (pre ++ [c]).getLast? cs with
      | none =>
        rw [hfound] at hrest
        intro q rest name hcs hstands
        obtain ⟨q₁, -, hcs₁, hstands₁⟩ := hpassed q rest name hcs hstands
        exact hrest q₁ rest name hcs₁ hstands₁
      | some name =>
        rw [hfound] at hrest
        obtain ⟨q, rest, hcs, hstands, hleast⟩ := hrest
        refine ⟨c :: q, rest, by rw [hcs]; rfl, by rw [List.append_cons]; exact hstands, ?_⟩
        intro q' rest' name' hcs' hstands'
        obtain ⟨q₁, hq₁, hcs₁, hstands₁⟩ := hpassed q' rest' name' hcs' hstands'
        rw [hq₁, List.length_cons, List.length_cons]
        exact Nat.succ_le_succ (hleast q₁ rest' name' hcs₁ hstands₁)

section Find

variable {d : Declaration} {Name : String → Prop} (hd : d.Fits Name) (source : List Char)

include hd

/-- **Nothing is found exactly where no declaration is written.** -/
theorem find?_eq_none_iff :
    d.find? source = none ↔
      ∀ pre name, ¬ Written d.keyword d.mark Name source pre name := by
  have hwalk := search_leftmost d [] source
  constructor
  · intro h pre name hwritten
    rw [List.getLast?_nil, ← find?, h] at hwalk
    obtain ⟨rest, hsource, hstands⟩ := (written_iff hd).mp hwritten
    exact hwalk pre rest name hsource hstands
  · intro h
    rw [List.getLast?_nil, ← find?] at hwalk
    cases hfind : d.find? source with
    | none => rfl
    | some name =>
      rw [hfind] at hwalk
      obtain ⟨q, rest, hsource, hstands, -⟩ := hwalk
      exact absurd ((written_iff hd).mpr ⟨rest, hsource, hstands⟩) (h q name)

/-- **The name found is that of the first declaration written.** -/
theorem find?_eq_some_iff (name : String) :
    d.find? source = some name ↔
      ∃ pre, IsFirst (Written d.keyword d.mark Name source) pre name := by
  have hfirst : ∀ found, d.find? source = some found →
      ∃ pre, IsFirst (Written d.keyword d.mark Name source) pre found := by
    intro found h
    have hwalk := search_leftmost d [] source
    rw [List.getLast?_nil, ← find?, h] at hwalk
    obtain ⟨q, rest, hsource, hstands, hleast⟩ := hwalk
    refine ⟨q, (written_iff hd).mpr ⟨rest, hsource, hstands⟩, ?_⟩
    intro pre' name' hwritten'
    obtain ⟨rest', hsource', hstands'⟩ := (written_iff hd).mp hwritten'
    exact hleast pre' rest' name' hsource' hstands'
  refine ⟨hfirst name, ?_⟩
  -- conversely something is written, so something is found, and it is first as well
  rintro ⟨pre, hwritten, hleast⟩
  cases hfind : d.find? source with
  | none => exact absurd hwritten ((find?_eq_none_iff hd source).mp hfind pre name)
  | some found =>
    -- two first places have equally much before them, so they are one place
    obtain ⟨pre', hwritten', hleast'⟩ := hfirst found hfind
    have hlength : pre.length = pre'.length :=
      Nat.le_antisymm (hleast pre' found hwritten') (hleast' pre name hwritten)
    obtain ⟨rest, hsource, -⟩ := (written_iff hd).mp hwritten
    obtain ⟨rest', hsource', -⟩ := (written_iff hd).mp hwritten'
    have hpre : pre = pre' := (List.append_inj (hsource.symm.trans hsource') hlength).1
    rw [← hpre] at hwritten'
    rw [written_unique hd hwritten hwritten']

end Find

/-- A reading that fails half-way does not end the walk. -/
example : shaderType.find? "shader_type a b; shader_type sky;".toList = some "sky" := by decide

example : entryPoint.find? "void skybox() void sky(".toList = some "sky" := by decide

end Declaration

/-! ## The declarations of a source -/

open Declaration

/-- **The shader type and the entry point of a source.** Each is the name in the first declaration
of its form that is written in the source, comments and line breaks not excepted, and is missing
exactly if none is written; and at one place only one name is written. -/
theorem classify_declarations (source : String) :
    (∀ name, (classify source).shaderType = some name ↔
      ∃ pre, IsFirst (Written "shader_type" ';' IsWordName source.toList) pre name)
    ∧ ((classify source).shaderType = none ↔
      ∀ pre name, ¬ Written "shader_type" ';' IsWordName source.toList pre name)
    ∧ (∀ name, (classify source).entryPoint = some name ↔
      ∃ pre, IsFirst (Written "void" '(' (· ∈ Dialect.entryPoints) source.toList) pre name)
    ∧ ((classify source).entryPoint = none ↔
      ∀ pre name, ¬ Written "void" '(' (· ∈ Dialect.entryPoints) source.toList pre name)
    ∧ (∀ pre name name', Written "shader_type" ';' IsWordName source.toList pre name →
      Written "shader_type" ';' IsWordName source.toList pre name' → name = name')
    ∧ ∀ pre name name', Written "void" '(' (· ∈ Dialect.entryPoints) source.toList pre name →
      Written "void" '(' (· ∈ Dialect.entryPoints) source.toList pre name' → name = name' := by
  refine ⟨?_, ?_, ?_, ?_, ?_, ?_⟩
  · exact find?_eq_some_iff shaderType_fits source.toList
  · exact find?_eq_none_iff shaderType_fits source.toList
  · exact find?_eq_some_iff entryPoint_fits source.toList
  · exact find?_eq_none_iff entryPoint_fits source.toList
  · exact fun pre name name' => written_unique shaderType_fits
  · exact fun pre name name' => written_unique entryPoint_fits

end ShaderLint
