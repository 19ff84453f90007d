/-
What the default chain reports.

The three checks of the default chain decide by Boolean tests and by looking a shader type up in a
table. Here the same conditions are said of the tables themselves: a shader type is in the list of
types, an entry point in the list of entry points or in the row of the shader type. The report on a
document is then three lists one after the other, `typeErrors`, `entryErrors` and
`semicolonErrors`, and it is always given (`default_chain_report`).

That a report is valid can be said with the rows alone: there is a row for the shader type and the
entry point is in it. This is where the tables have to agree, since the checks themselves ask three
of them. The rows have the shader types for keys, their entry points are entry points of the
dialect, and no key is on two rows.
-/
import Mathlib.Data.List.Basic
import ShaderLint.Proofs.ChainOutcome
import ShaderLint.Proofs.WholeSourceScan

set_option autoImplicit false

namespace ShaderLint

/-! ## The rows of entry points -/

namespace Dialect

/-- No key is on two rows: each is looked up on its own. -/
theorem lookup_of_mem : ∀ row ∈ shaderEntryPoints, shaderEntryPoints.lookup row.1 = some row.2 := by
  decide

theorem mem_of_lookup {type : String} {entries : List String}
    (h : shaderEntryPoints.lookup type = some entries) : (type, entries) ∈ shaderEntryPoints := by
  obtain ⟨before, after, hrows, -⟩ := List.lookup_eq_some_iff.mp h
  rw [hrows]
  exact List.mem_append_right before List.mem_cons_self

/-- A type admits an entry point if every row of the type does; that is the one row, if any. -/
theorem admitsEntry_iff {shaderType : Option String} {entry : String} :
    admitsEntry shaderType entry = true ↔
      ∀ row ∈ shaderEntryPoints, shaderType = some row.1 → entry ∈ row.2 := by
  rw [admitsEntry]
  cases hrow : shaderType.bind (shaderEntryPoints.lookup ·) with
  | none =>
    refine ⟨fun _ row hmem htype => ?_, fun _ => rfl⟩
    rw [htype, Option.bind_some, lookup_of_mem row hmem] at hrow
    contradiction
  | some entries =>
    obtain ⟨type, htype, hlookup⟩ := Option.bind_eq_some_iff.mp hrow
    constructor
    · intro h row hmem hrowType
      rw [htype, Option.some.injEq] at hrowType
      rw [hrowType, lookup_of_mem row hmem, Option.some.injEq] at hlookup
      rw [hlookup]
      exact List.contains_iff_mem.mp h
    · intro h
      exact List.contains_iff_mem.mpr (h (type, entries) (mem_of_lookup hlookup) htype)

end Dialect

/-! ## Conditions on a document -/

namespace Document

/-- The document's shader type is one of the dialect. -/
def HasType (d : Document) : Prop := ∃ type ∈ Dialect.shaderTypes, d.shaderType = some type

/-- The document's entry point is one of the dialect. -/
def HasEntry (d : Document) : Prop := ∃ entry ∈ Dialect.entryPoints, d.entryPoint = some entry

/-- The document's entry point is one of a row. -/
def EntryIn (d : Document) (row : String × List String) : Prop :=
  ∃ entry ∈ row.2, d.entryPoint = some entry

/-- There is a row for the document's shader type, and the entry point is not in it. -/
def MissesRow (d : Document) : Prop :=
  ∃ row ∈ Dialect.shaderEntryPoints, d.shaderType = some row.1 ∧ ¬ d.EntryIn row

/-- There is a row for the document's shader type, and the entry point is in it. -/
def MeetsRow (d : Document) : Prop :=
  ∃ row ∈ Dialect.shaderEntryPoints, d.shaderType = some row.1 ∧ d.EntryIn row

instance (d : Document) : Decidable d.HasType :=
  inferInstanceAs (Decidable (∃ type ∈ Dialect.shaderTypes, d.shaderType = some type))

instance (d : Document) : Decidable d.HasEntry :=
  inferInstanceAs (Decidable (∃ entry ∈ Dialect.entryPoints, d.entryPoint = some entry))

instance (d : Document) (row : String × List String) : Decidable (d.EntryIn row) :=
  inferInstanceAs (Decidable (∃ entry ∈ row.2, d.entryPoint = some entry))

instance (d : Document) : Decidable d.MissesRow :=
  inferInstanceAs (Decidable
    (∃ row ∈ Dialect.shaderEntryPoints, d.shaderType = some row.1 ∧ ¬ d.EntryIn row))

theorem hasShaderType_iff (d : Document) : Validator.hasShaderType d = true ↔ d.HasType := by
  unfold Validator.hasShaderType HasType
  cases d.shaderType with
  | none =>
    constructor
    · intro h
      contradiction
    · rintro ⟨type, -, h⟩
      contradiction
  | some type =>
    rw [Option.any_some, List.contains_iff_mem]
    constructor
    · intro h
      exact ⟨type, h, rfl⟩
    · rintro ⟨type', hmem, h⟩
      rw [Option.some.inj h]
      exact hmem

theorem hasEntryPoint_iff (d : Document) :
    Validator.hasEntryPoint d = true ↔ d.HasEntry ∧ ¬ d.MissesRow := by
  unfold Validator.hasEntryPoint HasEntry MissesRow EntryIn
  cases d.entryPoint with
  | none =>
    constructor
    · intro h
      contradiction
    · rintro ⟨⟨entry, -, h⟩, -⟩
      contradiction
  | some entry =>
    rw [Option.any_some, Bool.and_eq_true, List.contains_iff_mem, Dialect.admitsEntry_iff]
    constructor
    · rintro ⟨hentry, hrows⟩
      refine ⟨⟨entry, hentry, rfl⟩, ?_⟩
      rintro ⟨row, hrow, htype, hnot⟩
      exact hnot ⟨entry, hrows row hrow htype, rfl⟩
    · rintro ⟨⟨entry', hentry, h⟩, hrows⟩
      rw [← Option.some.inj h] at hentry
      refine ⟨hentry, fun row hrow htype => ?_⟩
      by_contra hnot
      refine hrows ⟨row, hrow, htype, ?_⟩
      rintro ⟨entry', hmem, h⟩
      rw [← Option.some.inj h] at hmem
      exact hnot hmem

/-- **The tables agree.** A known type with an entry point that its row does not miss is a type
with a row that has the entry point; and that entry point is then one of the dialect. -/
theorem meetsRow_iff (d : Document) : d.MeetsRow ↔ d.HasType ∧ d.HasEntry ∧ ¬ d.MissesRow := by
  constructor
  · rintro ⟨row, hrow, htype, entry, hentry, hd⟩
    refine ⟨⟨row.1, ?_, htype⟩, ⟨entry, Dialect.entryPoints_of_row row hrow entry hentry, hd⟩, ?_⟩
    · rw [← Dialect.shaderEntryPoints_keys]
      exact List.mem_map_of_mem hrow
    · rintro ⟨row', hrow', htype', hnot⟩
      -- a row of the same type is the same row
      have hkey : row'.1 = row.1 := Option.some.inj (htype'.symm.trans htype)
      have hrows := (Dialect.lookup_of_mem row' hrow').symm
      rw [hkey, Dialect.lookup_of_mem row hrow, Option.some.injEq] at hrows
      refine hnot ⟨entry, ?_, hd⟩
      rw [hrows]
      exact hentry
  · rintro ⟨⟨type, hmem, htype⟩, -, hrows⟩
    -- a known type has a row, and that is one that the entry point does not miss
    rw [← Dialect.shaderEntryPoints_keys] at hmem
    obtain ⟨row, hrow, rfl⟩ := List.mem_map.mp hmem
    by_contra hnone
    exact hrows ⟨row, hrow, htype, fun hentry => hnone ⟨row, hrow, htype, hentry⟩⟩

/-! ## The three lists -/

/-- What is to be said of the shader type. -/
def typeErrors (d : Document) : List Diagnostic :=
  if d.HasType then []
  else
    [{ line := .first
       message := "Missing or invalid shader_type declaration (e.g. shader_type spatial;)."
       code := .missingOrInvalidShaderType }]

/-- What is to be said of the entry point. -/
def entryErrors (d : Document) : List Diagnostic :=
  if ¬ d.HasEntry ∨ d.MissesRow then
    [{ line := .first
       message := "Missing or invalid entrypoint (e.g. " ++ Dialect.entryPointHint d.shaderType ++ ")."
       code := .missingOrInvalidEntryPoint }]
  else []

/-- A statement that needs a semicolon and does not end with one. -/
def Flagged (s : Statement) : Prop := s.requiresSemicolon = true ∧ s.endsWithSemicolon = false

instance (s : Statement) : Decidable (Flagged s) :=
  inferInstanceAs (Decidable (s.requiresSemicolon = true ∧ s.endsWithSemicolon = false))

/-- What is to be said of the statements: one diagnostic for each that is flagged, in order. -/
def semicolonErrors (d : Document) : List Diagnostic :=
  (d.statements.filter fun s => Flagged s).map fun s =>
    { line := s.line
      message := "Expected ';' at end of statement."
      code := .missingStatementTerminator }

theorem flagged_iff (s : Statement) : Validator.isUnterminated s = decide (Flagged s) := by
  rw [Bool.eq_iff_iff, decide_eq_true_eq, Validator.isUnterminated, Bool.and_eq_true,
    Bool.not_eq_true', Flagged]

/-- What the check for semicolons says of a document. -/
theorem terminatorErrors_eq (d : Document) : Validator.terminatorErrors d = d.semicolonErrors := by
  unfold Validator.terminatorErrors semicolonErrors
  rw [List.filter_congr fun s _ => flagged_iff s]
  rfl

theorem semicolonErrors_eq_nil_iff (d : Document) :
    d.semicolonErrors = [] ↔ ∀ s ∈ d.statements, ¬ Flagged s := by
  rw [semicolonErrors, List.map_eq_nil_iff, List.filter_eq_nil_iff]
  simp only [decide_eq_true_eq]

/-! ## What each list depends on

The first two lists are read off the two declarations, and the third off the statements. -/

theorem typeErrors_congr {d d' : Document} (h : d.shaderType = d'.shaderType) :
    d.typeErrors = d'.typeErrors := by
  have hiff : d.HasType ↔ d'.HasType := by rw [HasType, HasType, h]
  exact if_congr hiff rfl rfl

theorem entryErrors_congr {d d' : Document} (htype : d.shaderType = d'.shaderType)
    (hentry : d.entryPoint = d'.entryPoint) : d.entryErrors = d'.entryErrors := by
  have hiff : ¬ d.HasEntry ∨ d.MissesRow ↔ ¬ d'.HasEntry ∨ d'.MissesRow := by
    simp only [HasEntry, MissesRow, EntryIn, htype, hentry]
  rw [entryErrors, entryErrors, htype]
  exact if_congr hiff rfl rfl

theorem semicolonErrors_congr {d d' : Document} (h : d.statements = d'.statements) :
    d.semicolonErrors = d'.semicolonErrors := by
  rw [semicolonErrors, semicolonErrors, h]

/-- Further statements make further diagnostics, and change none of the others. -/
theorem semicolonErrors_append {d d' : Document} {more : List Statement}
    (h : d'.statements = d.statements ++ more) :
    d'.semicolonErrors = d.semicolonErrors ++ semicolonErrors { statements := more } := by
  rw [semicolonErrors, semicolonErrors, semicolonErrors, h, List.filter_append, List.map_append]

/-- Every diagnostic of the third list is for one of the statements. -/
theorem of_mem_semicolonErrors {d : Document} {e : Diagnostic} (he : e ∈ d.semicolonErrors) :
    e.code = .missingStatementTerminator ∧ ∃ s ∈ d.statements, e.line = s.line := by
  obtain ⟨s, hs, rfl⟩ := List.mem_map.mp he
  exact ⟨rfl, s, List.mem_of_mem_filter hs, rfl⟩

theorem code_of_mem_typeErrors {d : Document} {e : Diagnostic} (he : e ∈ d.typeErrors) :
    e.code = .missingOrInvalidShaderType := by
  unfold typeErrors at he
  by_cases h : d.HasType
  · rw [if_pos h] at he
    contradiction
  · rw [if_neg h, List.mem_singleton] at he
    rw [he]

theorem code_of_mem_entryErrors {d : Document} {e : Diagnostic} (he : e ∈ d.entryErrors) :
    e.code = .missingOrInvalidEntryPoint := by
  unfold entryErrors at he
  by_cases h : ¬ d.HasEntry ∨ d.MissesRow
  · rw [if_pos h, List.mem_singleton] at he
    rw [he]
  · rw [if_neg h] at he
    contradiction

end Document

/-- The diagnostics of a report for missing semicolons. -/
def Report.missingTerminators (report : Report) : List Diagnostic :=
  report.errors.filter fun e => e.code = .missingStatementTerminator

/-- Of all that there is to say of a document, the third list is what is about semicolons. -/
theorem Document.missingTerminators_eq (d : Document) :
    (Report.ofErrors (d.typeErrors ++ d.entryErrors ++ d.semicolonErrors)).missingTerminators
      = d.semicolonErrors := by
  have htype : d.typeErrors.filter (fun e => e.code = .missingStatementTerminator) = [] := by
    rw [List.filter_eq_nil_iff]
    intro e he
    rw [code_of_mem_typeErrors he]
    decide
  have hentry : d.entryErrors.filter (fun e => e.code = .missingStatementTerminator) = [] := by
    rw [List.filter_eq_nil_iff]
    intro e he
    rw [code_of_mem_entryErrors he]
    decide
  have hsemicolon : d.semicolonErrors.filter (fun e => e.code = .missingStatementTerminator)
      = d.semicolonErrors := by
    rw [List.filter_eq_self]
    intro e he
    rw [(of_mem_semicolonErrors he).1]
    decide
  rw [Report.missingTerminators, Report.ofErrors, List.filter_append, List.filter_append, htype,
    hentry, hsemicolon, List.append_nil, List.nil_append]

/-! ## The report -/

namespace Chain

/-- **The three checks, one after the other.** None of them fails and none is left out. -/
theorem default_errors (d : Document) :
    default.errors d = .ok (d.typeErrors ++ d.entryErrors ++ d.semicolonErrors) := by
  have htype : (if Validator.hasShaderType d then [] else [Validator.shaderTypeError])
      = d.typeErrors := by
    unfold Document.typeErrors
    simp only [Document.hasShaderType_iff]
    rfl
  have hentry : (if Validator.hasEntryPoint d then [] else [Validator.entryPointError d.shaderType])
      = d.entryErrors := by
    unfold Document.entryErrors
    by_cases h : d.HasEntry ∧ ¬ d.MissesRow
    · rw [if_pos ((Document.hasEntryPoint_iff d).mpr h), if_neg]
      rintro (hnot | hmisses)
      · exact hnot h.1
      · exact h.2 hmisses
    · rw [if_neg fun hb => h ((Document.hasEntryPoint_iff d).mp hb), if_pos]
      · rfl
      · by_contra hboth
        rw [not_or, not_not] at hboth
        exact h hboth
  -- the chain is run by computing: it has three checks, and each gives its list
  have hrun : default.errors d
      = .ok ((if Validator.hasShaderType d then [] else [Validator.shaderTypeError])
        ++ ((if Validator.hasEntryPoint d then [] else [Validator.entryPointError d.shaderType])
          ++ (Validator.terminatorErrors d ++ []))) := rfl
  rw [hrun, htype, hentry, Document.terminatorErrors_eq, List.append_nil, List.append_assoc]

theorem default_check (d : Document) :
    default.check d = .ok (.ofErrors (d.typeErrors ++ d.entryErrors ++ d.semicolonErrors)) := by
  rw [check, default_errors]
  rfl

theorem default_checkSource (source : String) :
    (default.checkSource source).1
      = .ok (.ofErrors ((classify source).typeErrors ++ (classify source).entryErrors
          ++ (classify source).semicolonErrors)) := by
  rw [checkSource_fst, default_check]

/-- Nothing is said of a document whose entry point is in the row of its shader type and whose
statements have their semicolons, and of no other. -/
theorem default_errors_eq_nil_iff (d : Document) :
    d.typeErrors ++ d.entryErrors ++ d.semicolonErrors = [] ↔
      d.MeetsRow ∧ ∀ s ∈ d.statements, ¬ Document.Flagged s := by
  have htype : d.typeErrors = [] ↔ d.HasType := by
    unfold Document.typeErrors
    by_cases h : d.HasType
    · rw [if_pos h]
      exact ⟨fun _ => h, fun _ => rfl⟩
    · rw [if_neg h]
      exact ⟨fun hnil => absurd hnil (List.cons_ne_nil _ _), fun hd => absurd hd h⟩
  have hentry : d.entryErrors = [] ↔ d.HasEntry ∧ ¬ d.MissesRow := by
    unfold Document.entryErrors
    by_cases h : ¬ d.HasEntry ∨ d.MissesRow
    · rw [if_pos h]
      refine ⟨fun hnil => absurd hnil (List.cons_ne_nil _ _), fun hd => ?_⟩
      exact absurd h (not_or.mpr ⟨not_not.mpr hd.1, hd.2⟩)
    · rw [if_neg h]
      rw [not_or, not_not] at h
      exact ⟨fun _ => h, fun _ => rfl⟩
  rw [List.append_eq_nil_iff, List.append_eq_nil_iff, htype, hentry,
    Document.semicolonErrors_eq_nil_iff, Document.meetsRow_iff]

/-- **The report of the default chain.** Every document gets one. It says what there is to say of
the shader type, then of the entry point, then of each flagged statement in order, and it is valid
exactly if the shader type has a row, the entry point is in it and no statement is flagged. A
source gets the report on its document, and there the flagged statements stand at increasing lines,
none beyond the last. -/
theorem default_chain_report :
    (∀ d : Document, ∃ report, default.check d = .ok report
      ∧ report.errors = d.typeErrors ++ d.entryErrors ++ d.semicolonErrors
      ∧ (report.valid = true ↔ d.MeetsRow ∧ ∀ s ∈ d.statements, ¬ Document.Flagged s))
    ∧ ∀ source : String, ∃ report, default.check (classify source) = .ok report
      ∧ default.checkSource source = (.ok report, [completion (classify source) report])
      ∧ ((classify source).semicolonErrors.Pairwise fun e f => e.line.val < f.line.val)
      ∧ ∀ e ∈ (classify source).semicolonErrors,
          1 ≤ e.line.val ∧ e.line.val ≤ 1 + source.toList.count '\n' := by
  have hcheck : ∀ d : Document, default.check d
      = .ok (Report.ofErrors (d.typeErrors ++ d.entryErrors ++ d.semicolonErrors)) := by
    intro d
    rw [check, default_errors]
    rfl
  constructor
  · intro d
    refine ⟨_, hcheck d, rfl, ?_⟩
    rw [← default_errors_eq_nil_iff, Report.ofErrors, List.isEmpty_iff]
  · intro source
    refine ⟨_, hcheck (classify source), ?_, ?_, ?_⟩
    · rw [checkSource, hcheck]
    · rw [Document.semicolonErrors, List.pairwise_map]
      exact (Scan.classify_increasing source).filter _
    · intro e he
      obtain ⟨s, hs, rfl⟩ := List.mem_map.mp he
      exact ⟨s.line.pos, Scan.line_le_of_mem_classify (List.mem_of_mem_filter hs)⟩

end Chain

end ShaderLint
