/-
Text put after a source.

A source that goes on keeps the declarations that it has. What has to be ruled out is that the
further text completes an attempt that began further left, and so a declaration comes to stand in
front of the one found. It cannot: the mark that completes a declaration occurs nowhere else in it
(`mark_not_mem`), so an attempt that begins before a mark is settled at that mark, and what is read
at any place of a text depends on the text only up to the first mark after the place
(`read?_append`). A declaration that was found shows that there is such a mark, for its own place
and for all places before it.

For the report of the default chain this leaves the semicolons. The lines that are already there
keep their statements, since a line hands on to the next only whether a block comment is open, and
so the further diagnostics are all for further lines (`classify_append_stable`).
-/
import ShaderLint.Proofs.ChainOutcome
import ShaderLint.Proofs.Concatenation
import ShaderLint.Proofs.DefaultChain
import ShaderLint.Proofs.FirstDeclaration

set_option autoImplicit false

namespace ShaderLint

open Text

namespace Declaration

/-! Both keywords are words, with no blank and no mark in them. -/

theorem shaderType_keyword : IsWordName shaderType.keyword :=
  ⟨by decide, List.all_eq_true.mp (by decide)⟩

theorem entryPoint_keyword : IsWordName entryPoint.keyword :=
  ⟨by decide, List.all_eq_true.mp (by decide)⟩

/-! ## The mark settles an attempt -/

/-- Two ways to cut one text: if the first part has the mark, and nothing before the mark has it,
then the mark is in the first part. -/
theorem exists_rest_of_mem {mark : Char} {cs more body post : List Char} (hmem : mark ∈ cs)
    (hbody : mark ∉ body) (h : cs ++ more = body ++ mark :: post) :
    ∃ rest, cs = body ++ mark :: rest := by
  rcases List.append_eq_append_iff.mp h with ⟨between, hbetween, -⟩ | ⟨rest, hcs, hrest⟩
  · rw [hbetween] at hbody
    exact absurd (List.mem_append_left between hmem) hbody
  · rcases rest with _ | ⟨c, rest⟩
    · rw [List.append_nil] at hcs
      rw [hcs] at hmem
      exact absurd hmem hbody
    · rw [List.cons_append, List.cons.injEq] at hrest
      exact ⟨rest, by rw [hcs, hrest.1]⟩

section Mark

variable {d : Declaration} {Name : String → Prop} (hd : d.Fits Name) (hk : IsWordName d.keyword)

include hd in
theorem mark_mem_of_read? {cs : List Char} {name : String} (h : d.read? cs = some name) :
    d.mark ∈ cs := by
  obtain ⟨gap, pad, post, rfl, -⟩ := (read?_eq_some_iff hd).mp h
  simp

include hd in
theorem mark_mem_of_search {before : Option Char} {cs : List Char} {name : String}
    (h : d.search before cs = some name) : d.mark ∈ cs := by
  induction cs generalizing before with
  | nil => contradiction
  | cons c cs ih =>
    cases hread : d.read? (c :: cs) with
    | some found => exact mark_mem_of_read? hd hread
    | none =>
      simp only [search, hread] at h
      exact List.mem_cons_of_mem c (ih h)

include hd hk

/-- **The mark occurs nowhere else in a declaration.** Before it there are word characters and
blanks only. -/
theorem mark_not_mem {gap pad : List Char} {name : String} (hgap : ∀ c ∈ gap, isBlank c = true)
    (hpad : ∀ c ∈ pad, isBlank c = true) (hname : Name name) :
    d.mark ∉ d.keyword.toList ++ (gap ++ (name.toList ++ pad)) := by
  have hword : ∀ cs : List Char, (∀ c ∈ cs, isWord c = true) → d.mark ∉ cs := by
    intro cs hcs hmem
    have h := hcs d.mark hmem
    rw [hd.mark_word] at h
    contradiction
  have hblank : ∀ cs : List Char, (∀ c ∈ cs, isBlank c = true) → d.mark ∉ cs := by
    intro cs hcs hmem
    have h := hcs d.mark hmem
    rw [hd.mark_blank] at h
    contradiction
  simp only [List.mem_append, not_or]
  exact ⟨hword _ hk.2, hblank gap hgap, hword _ ((hd.name_iff name).mp hname).1.2, hblank pad hpad⟩

/-- **An attempt before a mark is settled.** Text put after does not change what is read. -/
theorem read?_append {cs : List Char} (hmem : d.mark ∈ cs) (more : List Char) :
    d.read? (cs ++ more) = d.read? cs := by
  apply Option.ext
  intro name
  rw [read?_eq_some_iff hd, read?_eq_some_iff hd]
  constructor
  · rintro ⟨gap, pad, post, hcs, hne, hgap, hpad, hname⟩
    -- all that comes before the mark, as one part
    have hparts : cs ++ more
        = (d.keyword.toList ++ (gap ++ (name.toList ++ pad))) ++ d.mark :: post := by
      rw [hcs]
      simp only [List.append_assoc]
    obtain ⟨rest, hrest⟩ := exists_rest_of_mem hmem (mark_not_mem hd hk hgap hpad hname) hparts
    refine ⟨gap, pad, rest, ?_, hne, hgap, hpad, hname⟩
    rw [hrest]
    simp only [List.append_assoc]
  · rintro ⟨gap, pad, post, rfl, hrest⟩
    refine ⟨gap, pad, post ++ more, ?_, hrest⟩
    simp only [List.append_assoc, List.cons_append]

/-! ## The walk through a text that goes on -/

/-- **The walk ends where it ended.** At each place up to there the reading is the one it was, since
the mark of the declaration that is found is still to come. -/
theorem search_append {before : Option Char} {cs : List Char} {name : String}
    (h : d.search before cs = some name) (more : List Char) :
    d.search before (cs ++ more) = some name := by
  induction cs generalizing before with
  | nil => contradiction
  | cons c cs ih =>
    have hread := read?_append hd hk (mark_mem_of_search hd h) more
    rw [List.cons_append] at hread ⊢
    rw [search] at h ⊢
    rw [hread]
    cases hfound : d.read? (c :: cs) with
    | none =>
      simp only [hfound] at h
      exact ih h
    | some found =>
      simp only [hfound] at h ⊢
      by_cases hboundary : boundary before = true
      · rw [if_pos hboundary] at h ⊢
        exact h
      · rw [if_neg hboundary] at h ⊢
        exact ih h

end Mark

/-- An attempt that the end of the text cuts off is not in the way of a later one. -/
example : shaderType.find? "shader_type a; shader_type b ".toList = some "a"
    ∧ shaderType.find? "shader_type a; shader_type b ;".toList = some "a" := by decide

end Declaration

/-! ## A source that goes on -/

section Source

variable {a : String} (b : String)

theorem classify_shaderType_append {type : String} (h : (classify a).shaderType = some type) :
    (classify (a ++ b)).shaderType = some type := by
  unfold classify
  rw [String.toList_append]
  exact Declaration.search_append Declaration.shaderType_fits Declaration.shaderType_keyword h _

theorem classify_entryPoint_append {entry : String} (h : (classify a).entryPoint = some entry) :
    (classify (a ++ b)).entryPoint = some entry := by
  unfold classify
  rw [String.toList_append]
  exact Declaration.search_append Declaration.entryPoint_fits Declaration.entryPoint_keyword h _

end Source

/-- **Further lines make further statements only.** All of these have greater numbers. -/
theorem exists_classify_statements_append (a b : String) :
    ∃ more, (classify (a ++ "\n" ++ b)).statements = (classify a).statements ++ more
      ∧ ∀ s ∈ more, 1 + a.toList.count '\n' < s.line.val := by
  have hjoin : (a ++ "\n" ++ b).toList = a.toList ++ '\n' :: b.toList := by
    rw [String.toList_append, String.toList_append, List.append_assoc]
    rfl
  have hlength : (Scan.codeLines .code a.toList).length = 1 + a.toList.count '\n' :=
    Scan.length_codeLines false a.toList
  -- the lines of `b`, scanned from where those of `a` leave off
  obtain ⟨codes, hcodes⟩ : ∃ codes, Scan.codeLines .code (a.toList ++ '\n' :: b.toList)
      = Scan.codeLines .code a.toList ++ codes :=
    ⟨_, Scan.codeLines_append false a.toList b.toList⟩
  refine ⟨Statement.ofLinesFrom (1 + a.toList.count '\n') codes, ?_, fun s hs =>
    (Statement.line_of_mem_ofLinesFrom hs).1⟩
  rw [Scan.classify_statements_from, hjoin, hcodes, Statement.ofLinesFrom_append, Nat.zero_add,
    hlength, ← Scan.classify_statements_from]

/-- **Further statements, the declarations being the same.** The default chain says what it said,
and then what there is to say of the further statements. -/
theorem Chain.default_check_append {d d' : Document} {more : List Statement}
    (htype : d'.shaderType = d.shaderType) (hentry : d'.entryPoint = d.entryPoint)
    (hmore : d'.statements = d.statements ++ more) :
    ∃ report longer, default.check d = .ok report ∧ default.check d' = .ok longer
      ∧ longer.errors = report.errors ++ Document.semicolonErrors { statements := more }
      ∧ (report.valid = false → longer.valid = false) := by
  have herrors : d'.typeErrors ++ d'.entryErrors ++ d'.semicolonErrors
      = d.typeErrors ++ d.entryErrors ++ d.semicolonErrors
        ++ Document.semicolonErrors { statements := more } := by
    rw [Document.typeErrors_congr htype, Document.entryErrors_congr htype hentry,
      Document.semicolonErrors_append hmore, List.append_assoc _ d.semicolonErrors]
  refine ⟨_, _, default_check d, default_check d', herrors, fun hinvalid => ?_⟩
  simp only [Report.ofErrors, List.isEmpty_eq_false_iff] at hinvalid ⊢
  rw [herrors]
  exact List.append_ne_nil_of_left_ne_nil hinvalid _

/-- **A source keeps what it declares, whatever text follows.** The shader type and the entry point
that a source has are those of every longer source that begins with it. So further lines, where
both are declared, leave each diagnostic of the default chain in its place; what they add are
semicolons that are missing on the further lines, and a source that is not valid stays so. -/
theorem classify_append_stable (a b : String) :
    ((classify a).shaderType ≠ none →
      (classify (a ++ b)).shaderType = (classify a).shaderType)
    ∧ ((classify a).entryPoint ≠ none →
      (classify (a ++ b)).entryPoint = (classify a).entryPoint)
    ∧ ((classify a).shaderType ≠ none → (classify a).entryPoint ≠ none →
      ∃ report longer further,
        (Chain.default.checkSource a).1 = .ok report
        ∧ (Chain.default.checkSource (a ++ "\n" ++ b)).1 = .ok longer
        ∧ longer.errors = report.errors ++ further
        ∧ (∀ e ∈ further, e.code = .missingStatementTerminator
          ∧ 1 + a.toList.count '\n' < e.line.val)
        ∧ (report.valid = false → longer.valid = false)) := by
  have htype : ∀ b, (classify a).shaderType ≠ none →
      (classify (a ++ b)).shaderType = (classify a).shaderType := by
    intro b h
    obtain ⟨type, htype⟩ := Option.ne_none_iff_exists'.mp h
    rw [htype, classify_shaderType_append b htype]
  have hentry : ∀ b, (classify a).entryPoint ≠ none →
      (classify (a ++ b)).entryPoint = (classify a).entryPoint := by
    intro b h
    obtain ⟨entry, hentry⟩ := Option.ne_none_iff_exists'.mp h
    rw [hentry, classify_entryPoint_append b hentry]
  refine ⟨htype b, hentry b, fun hsomeType hsomeEntry => ?_⟩
  -- the line break and what follows it are one text put after `a`
  have htype' := htype ("\n" ++ b) hsomeType
  have hentry' := hentry ("\n" ++ b) hsomeEntry
  rw [← String.append_assoc] at htype' hentry'
  obtain ⟨more, hmore, hlines⟩ := exists_classify_statements_append a b
  obtain ⟨report, longer, hreport, hlonger, herrors, hinvalid⟩ :=
    Chain.default_check_append htype' hentry' hmore
  refine ⟨report, longer, _, ?_, ?_, herrors, fun e he => ?_, hinvalid⟩
  · rw [Chain.checkSource_fst, hreport]
  · rw [Chain.checkSource_fst, hlonger]
  · obtain ⟨hcode, s, hs, hline⟩ := Document.of_mem_semicolonErrors he
    rw [hline]
    exact ⟨hcode, hlines s hs⟩

/-- A source whose last line lacks its semicolon, and a second declaration put after it: the shader
type stays, and so does the defect. -/
theorem classify_append_stable_sky :
    (classify "shader_type sky;\nvoid sky()\nx = 1").shaderType ≠ none
    ∧ (classify "shader_type sky;\nvoid sky()\nx = 1").entryPoint ≠ none
    ∧ (classify ("shader_type sky;\nvoid sky()\nx = 1" ++ "0; shader_type fog;")).shaderType
      = (classify "shader_type sky;\nvoid sky()\nx = 1").shaderType
    ∧ ∃ report longer further,
        (Chain.default.checkSource "shader_type sky;\nvoid sky()\nx = 1").1 = .ok report
        ∧ (Chain.default.checkSource
          ("shader_type sky;\nvoid sky()\nx = 1" ++ "\n" ++ "0; shader_type fog;")).1 = .ok longer
        ∧ longer.errors = report.errors ++ further := by
  have htype : (classify "shader_type sky;\nvoid sky()\nx = 1").shaderType ≠ none := by decide
  have hentry : (classify "shader_type sky;\nvoid sky()\nx = 1").entryPoint ≠ none := by decide
  have h := classify_append_stable "shader_type sky;\nvoid sky()\nx = 1" "0; shader_type fog;"
  obtain ⟨report, longer, further, hreport, hlonger, herrors, -⟩ := h.2.2 htype hentry
  exact ⟨htype, hentry, h.1 htype, report, longer, further, hreport, hlonger, herrors⟩

end ShaderLint
