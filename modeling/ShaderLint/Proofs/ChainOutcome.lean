/-
What a chain makes of its validators.

The outcome of a run is told here by the validators one by one, each asked on its own. Either every
validator of the chain gives a list (`Finds`), and then the chain gives these lists one after the
other; or some validator fails, and then the failure of the first that does is the outcome
(`FailsFirst`), whatever the others would have said. One of the two is the case for every chain and
every document, and never both, so the two equivalences `errors_eq_ok_iff` and
`errors_eq_error_iff` settle what a run gives.

Nothing here knows the built-in validators: a validator is any function from documents to a list
or a failure, and one may stand in a chain more than once. The laws on chains put together and on
chains in another order are then laws on lists of lists.
-/
import Mathlib.Data.List.Perm.Basic
import ShaderLint.Chain

set_option autoImplicit false

namespace ShaderLint.Chain

/-! ## The validators one by one -/

/-- Every validator of the chain gives a list on the document, and these are the lists in order. -/
def Finds (chain : Chain) (d : Document) (lists : List (List Diagnostic)) : Prop :=
  List.Forall₂ (fun v own => v.run d = .ok own) chain lists

/-- Some validator of the chain fails on the document, and this is how the first of them fails. -/
def FailsFirst (chain : Chain) (d : Document) (failure : Failure) : Prop :=
  ∃ before v after, chain = before ++ v :: after
    ∧ (∀ u ∈ before, ∃ own, u.run d = .ok own) ∧ v.run d = .error failure

/-- The lists of a chain are there as soon as no validator fails. -/
theorem exists_finds_iff (chain : Chain) (d : Document) :
    (∃ lists, chain.Finds d lists) ↔ ∀ v ∈ chain, ∃ own, v.run d = .ok own := by
  induction chain with
  | nil => exact ⟨fun _ => List.forall_mem_nil _, fun _ => ⟨[], .nil⟩⟩
  | cons v rest ih =>
    rw [List.forall_mem_cons, ← ih]
    constructor
    · rintro ⟨lists, hlists⟩
      cases hlists with
      | cons hown hrest => exact ⟨⟨_, hown⟩, _, hrest⟩
    · rintro ⟨⟨own, hown⟩, lists, hlists⟩
      exact ⟨own :: lists, .cons hown hlists⟩

/-- Chains put together find what the first finds and then what the second finds. -/
theorem Finds.append {first second : Chain} {d : Document} {xs ys : List (List Diagnostic)}
    (hx : first.Finds d xs) (hy : second.Finds d ys) : (first ++ second).Finds d (xs ++ ys) :=
  List.rel_append hx hy

/-- In another order the validators give the same lists in that order. -/
theorem Finds.perm {chain other : Chain} {d : Document} {lists : List (List Diagnostic)}
    (h : chain.Finds d lists) (hperm : chain.Perm other) :
    ∃ lists', other.Finds d lists' ∧ lists'.Perm lists :=
  List.perm_comp_forall₂ hperm.symm h

/-! ## The two outcomes

Each is an induction on the chain, with the first validator's own outcome as the case split. -/

section Map

variable {ε α β : Type} {outcome : Except ε α} {f : α → β}

theorem map_eq_ok_iff {b : β} : outcome.map f = .ok b ↔ ∃ a, outcome = .ok a ∧ f a = b := by
  cases outcome with
  | error e => simp [Except.map]
  | ok a => simp [Except.map]

theorem map_eq_error_iff {e : ε} : outcome.map f = .error e ↔ outcome = .error e := by
  cases outcome with
  | error e' => simp [Except.map]
  | ok a => simp [Except.map]

end Map

section Cons

variable {v : Validator} {rest : Chain} {d : Document}

theorem errors_cons_of_error {failure : Failure} (h : v.run d = .error failure) :
    errors (v :: rest) d = .error failure := by
  rw [errors, h]

theorem errors_cons_of_ok {own : List Diagnostic} (h : v.run d = .ok own) :
    errors (v :: rest) d = (errors rest d).map (own ++ ·) := by
  rw [errors, h]

/-- Where the first validator gives a list, the first to fail is one of the others. -/
theorem failsFirst_cons_of_ok {own : List Diagnostic} {failure : Failure} (h : v.run d = .ok own) :
    FailsFirst (v :: rest) d failure ↔ FailsFirst rest d failure := by
  constructor
  · rintro ⟨before, u, after, hchain, hbefore, hu⟩
    rcases before with _ | ⟨w, before⟩
    · rw [List.nil_append, List.cons.injEq] at hchain
      rw [← hchain.1, h] at hu
      contradiction
    · rw [List.cons_append, List.cons.injEq] at hchain
      exact ⟨before, u, after, hchain.2, (List.forall_mem_cons.mp hbefore).2, hu⟩
  · rintro ⟨before, u, after, rfl, hbefore, hu⟩
    exact ⟨v :: before, u, after, rfl, List.forall_mem_cons.mpr ⟨⟨own, h⟩, hbefore⟩, hu⟩

/-- Where the first validator fails, that is the failure. -/
theorem failsFirst_cons_of_error {failure failure' : Failure} (h : v.run d = .error failure) :
    FailsFirst (v :: rest) d failure' ↔ failure = failure' := by
  constructor
  · rintro ⟨before, u, after, hchain, hbefore, hu⟩
    rcases before with _ | ⟨w, before⟩
    · rw [List.nil_append, List.cons.injEq] at hchain
      rw [← hchain.1, h, Except.error.injEq] at hu
      exact hu
    · -- nothing stands before the first validator of all
      rw [List.cons_append, List.cons.injEq] at hchain
      obtain ⟨own, hown⟩ := hbefore w List.mem_cons_self
      rw [← hchain.1, h] at hown
      contradiction
  · rintro rfl
    exact ⟨[], v, rest, rfl, List.forall_mem_nil _, h⟩

end Cons

/-- **The diagnostics of a chain.** They are those of its validators, in order, and there are some
to give only if every validator gives its own. -/
theorem errors_eq_ok_iff {chain : Chain} {d : Document} {found : List Diagnostic} :
    chain.errors d = .ok found ↔ ∃ lists, chain.Finds d lists ∧ lists.flatten = found := by
  induction chain generalizing found with
  | nil =>
    rw [errors, Except.ok.injEq]
    constructor
    · rintro rfl
      exact ⟨[], .nil, rfl⟩
    · rintro ⟨lists, hlists, rfl⟩
      cases hlists
      rfl
  | cons v rest ih =>
    cases hv : v.run d with
    | error failure =>
      rw [errors_cons_of_error hv]
      constructor
      · intro h
        contradiction
      · rintro ⟨lists, hlists, -⟩
        cases hlists with
        | cons hown _ =>
          rw [hv] at hown
          contradiction
    | ok own =>
      rw [errors_cons_of_ok hv, map_eq_ok_iff]
      constructor
      · rintro ⟨others, hrest, rfl⟩
        obtain ⟨lists, hlists, rfl⟩ := ih.mp hrest
        exact ⟨own :: lists, .cons hv hlists, rfl⟩
      · rintro ⟨lists, hlists, rfl⟩
        cases hlists with
        | cons hown hrest =>
          rw [hv, Except.ok.injEq] at hown
          refine ⟨_, ih.mpr ⟨_, hrest, rfl⟩, ?_⟩
          rw [hown, List.flatten_cons]

/-- **The failure of a chain.** It is that of the first validator that fails. -/
theorem errors_eq_error_iff {chain : Chain} {d : Document} {failure : Failure} :
    chain.errors d = .error failure ↔ chain.FailsFirst d failure := by
  induction chain with
  | nil =>
    constructor
    · intro h
      contradiction
    · rintro ⟨before, v, after, hchain, -⟩
      simp at hchain
  | cons v rest ih =>
    cases hv : v.run d with
    | error own => rw [errors_cons_of_error hv, failsFirst_cons_of_error hv, Except.error.injEq]
    | ok own => rw [errors_cons_of_ok hv, map_eq_error_iff, failsFirst_cons_of_ok hv, ih]

/-! ## Reports -/

theorem check_eq_ok_iff {chain : Chain} {d : Document} {report : Report} :
    chain.check d = .ok report ↔
      ∃ lists, chain.Finds d lists ∧ Report.ofErrors lists.flatten = report := by
  rw [check, map_eq_ok_iff]
  constructor
  · rintro ⟨found, hfound, rfl⟩
    obtain ⟨lists, hlists, rfl⟩ := errors_eq_ok_iff.mp hfound
    exact ⟨lists, hlists, rfl⟩
  · rintro ⟨lists, hlists, rfl⟩
    exact ⟨_, errors_eq_ok_iff.mpr ⟨lists, hlists, rfl⟩, rfl⟩

theorem check_eq_error_iff {chain : Chain} {d : Document} {failure : Failure} :
    chain.check d = .error failure ↔ chain.FailsFirst d failure := by
  rw [check, map_eq_error_iff, errors_eq_error_iff]

/-- A source is run on as its document is. -/
theorem checkSource_fst (chain : Chain) (source : String) :
    (chain.checkSource source).1 = chain.check (classify source) := by
  rw [checkSource]
  cases chain.check (classify source) with
  | error failure => rfl
  | ok report => rfl

/-- A report is valid if none of the lists that it gathers has anything in it. -/
theorem valid_ofErrors_flatten (lists : List (List Diagnostic)) :
    (Report.ofErrors lists.flatten).valid = true ↔ ∀ own ∈ lists, own = [] := by
  rw [Report.ofErrors, List.isEmpty_iff, List.flatten_eq_nil_iff]

/-- **A run is settled by its validators.** There is a report exactly if none of them fails; it has
their lists one after the other, and is valid if all of these are empty. Otherwise the failure is
that of the first validator that fails. So the reports of two chains join to that of both, and
another order of a chain changes the order of the diagnostics and nothing else. A source is run on
as its document is, and one event tells of a run that comes to its end, none of one that fails. -/
theorem check_settled_by_validators (chain : Chain) :
    (∀ d : Document,
      ((∃ report, chain.check d = .ok report) ↔ ∀ v ∈ chain, ∃ own, v.run d = .ok own)
      ∧ (∀ lists, chain.Finds d lists → ∃ report, chain.check d = .ok report
          ∧ report.errors = lists.flatten ∧ (report.valid = true ↔ ∀ own ∈ lists, own = []))
      ∧ ∀ failure, chain.check d = .error failure ↔ chain.FailsFirst d failure)
    ∧ (∀ (other : Chain) (d : Document) (report report' : Report),
        chain.check d = .ok report → other.check d = .ok report' →
        ∃ both, (chain ++ other).check d = .ok both
          ∧ both.errors = report.errors ++ report'.errors)
    ∧ (∀ (other : Chain) (d : Document) (report : Report),
        chain.Perm other → chain.check d = .ok report →
        ∃ report', other.check d = .ok report' ∧ report'.valid = report.valid
          ∧ report'.errors.Perm report.errors)
    ∧ ∀ source : String,
        (chain.checkSource source).1 = chain.check (classify source)
        ∧ (∀ report, chain.check (classify source) = .ok report →
          (chain.checkSource source).2
            = [.validationComplete report.valid report.errors.length
                (classify source).statements.length (classify source).shaderType
                (classify source).entryPoint])
        ∧ ∀ failure, chain.check (classify source) = .error failure →
          (chain.checkSource source).2 = [] := by
  refine ⟨fun d => ⟨?_, ?_, fun failure => check_eq_error_iff⟩, ?_, ?_, ?_⟩
  · rw [← exists_finds_iff]
    constructor
    · rintro ⟨report, hreport⟩
      obtain ⟨lists, hlists, -⟩ := check_eq_ok_iff.mp hreport
      exact ⟨lists, hlists⟩
    · rintro ⟨lists, hlists⟩
      exact ⟨_, check_eq_ok_iff.mpr ⟨lists, hlists, rfl⟩⟩
  · intro lists hlists
    exact ⟨_, check_eq_ok_iff.mpr ⟨lists, hlists, rfl⟩, rfl, valid_ofErrors_flatten lists⟩
  · intro other d report report' hreport hreport'
    obtain ⟨xs, hxs, rfl⟩ := check_eq_ok_iff.mp hreport
    obtain ⟨ys, hys, rfl⟩ := check_eq_ok_iff.mp hreport'
    exact ⟨_, check_eq_ok_iff.mpr ⟨xs ++ ys, hxs.append hys, rfl⟩, List.flatten_append⟩
  · intro other d report hperm hreport
    obtain ⟨lists, hlists, rfl⟩ := check_eq_ok_iff.mp hreport
    obtain ⟨lists', hlists', hperm'⟩ := hlists.perm hperm
    refine ⟨_, check_eq_ok_iff.mpr ⟨lists', hlists', rfl⟩, ?_, hperm'.flatten⟩
    -- the two verdicts ask the same of the same lists
    rw [Bool.eq_iff_iff, valid_ofErrors_flatten, valid_ofErrors_flatten]
    simp only [hperm'.mem_iff]
  · intro source
    refine ⟨checkSource_fst chain source, ?_, ?_⟩
    · intro report h
      rw [checkSource, h]
      rfl
    · intro failure h
      rw [checkSource, h]

/-- On an empty document the default checks report two defects. Two checks that break after them
make the outcome the failure of the first of the two, and the log empty; the default checks twice
over report each defect twice, and backwards they report the same two. -/
theorem check_settled_by_breaking :
    (default ++ [Validator.breaking "first" "RuntimeError" "one",
        Validator.breaking "second" "KeyError" "two"]).check {}
      = .error (.fault "RuntimeError" "one")
    ∧ ((default ++ [Validator.breaking "first" "RuntimeError" "one",
        Validator.breaking "second" "KeyError" "two"]).checkSource "").2 = []
    ∧ (∃ both, (default ++ default).check {} = .ok both
        ∧ both.errors = [Validator.shaderTypeError, Validator.entryPointError none,
            Validator.shaderTypeError, Validator.entryPointError none])
    ∧ ∃ report, check default.reverse {} = .ok report ∧ report.valid = false
        ∧ report.errors.Perm [Validator.shaderTypeError, Validator.entryPointError none] := by
  have hreport : default.check {}
      = .ok (.ofErrors [Validator.shaderTypeError, Validator.entryPointError none]) := rfl
  have hnone : ∀ v ∈ default, ∃ own, v.run {} = .ok own :=
    ((check_settled_by_validators default).1 {}).1.mp ⟨_, hreport⟩
  have hfailure := (((check_settled_by_validators (default ++
    [Validator.breaking "first" "RuntimeError" "one",
      Validator.breaking "second" "KeyError" "two"])).1 {}).2.2 _).mpr
        ⟨default, _, _, rfl, hnone, rfl⟩
  refine ⟨hfailure, ?_, ?_, ?_⟩
  · exact ((check_settled_by_validators _).2.2.2 "").2.2 _ hfailure
  · exact (check_settled_by_validators default).2.1 default {} _ _ hreport hreport
  · exact (check_settled_by_validators default).2.2.1 default.reverse {} _
      (List.reverse_perm default).symm hreport

end ShaderLint.Chain
