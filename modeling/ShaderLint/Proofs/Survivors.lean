/-
Which validators a chain has left.

A removal takes out every validator of a name, wherever it stands, and knows nothing of when it
came in; so whether a validator is left after a sequence of actions hangs on nothing but what comes
after its own entry. The validators that a chain began with enter before all of the actions, an
added one enters where it is added, and each is written down with the actions still to come
(`entrants`). Those of them whose name is not removed in what is still to come are what is left, in
order of entry (`afterAll_eq`).

The induction is on the actions with the chain left free, since each action hands another chain to
those after it; a removal then says the same of the validators that it leaves as of all.
-/
import Mathlib.Data.List.Basic
import ShaderLint.Proofs.SessionSteps

set_option autoImplicit false

namespace ShaderLint.Chain

/-! ## Entry and removal -/

/-- The validators that enter in the course of some actions, each with the actions that come after
its entry. -/
def added : List Action → List (Validator × List Action)
  | [] => []
  | .add v :: later => (v, later) :: added later
  | .remove _ :: later | .checkSource _ :: later | .checkDocument _ :: later => added later

/-- All validators that are ever in the chain, in order of entry. -/
def entrants (chain : Chain) (actions : List Action) : List (Validator × List Action) :=
  chain.map (fun v => (v, actions)) ++ added actions

/-- None of the later actions removes the validator's name. -/
def Stays (later : List Action) (v : Validator) : Prop := Action.remove v.name ∉ later

/-- Whether an action removes a name. -/
def Action.removes (name : String) : Action → Bool
  | .remove other => other == name
  | .add _ | .checkSource _ | .checkDocument _ => false

theorem Action.removes_iff {name : String} {a : Action} :
    a.removes name = true ↔ a = .remove name := by
  cases a with
  | remove other => rw [removes, beq_iff_eq, remove.injEq]
  | _ =>
    constructor
    · intro h
      contradiction
    · intro h
      contradiction

instance (later : List Action) (v : Validator) : Decidable (Stays later v) :=
  decidable_of_iff ((later.any (Action.removes v.name)) = false) (by
    rw [Stays, List.any_eq_false]
    constructor
    · intro h hmem
      exact h _ hmem (Action.removes_iff.mpr rfl)
    · intro h a ha hremoves
      rw [Action.removes_iff.mp hremoves] at ha
      exact h ha)

theorem stays_nil (v : Validator) : Stays [] v := List.not_mem_nil

theorem stays_cons {a : Action} {later : List Action} {v : Validator} :
    Stays (a :: later) v ↔ a ≠ .remove v.name ∧ Stays later v := by
  rw [Stays, Stays, List.mem_cons, not_or]
  exact and_congr_left fun _ => ne_comm

/-- An action that is no removal keeps nobody from staying. -/
theorem filter_stays_cons {a : Action} (ha : ∀ name, a ≠ .remove name) (later : List Action)
    (chain : Chain) :
    (chain.filter fun v => Stays (a :: later) v) = chain.filter fun v => Stays later v := by
  refine List.filter_congr fun v _ => decide_eq_decide.mpr ?_
  rw [stays_cons]
  exact and_iff_right (ha v.name)

/-- A removal keeps those of its name from staying. -/
theorem filter_stays_remove (name : String) (later : List Action) (chain : Chain) :
    (chain.filter fun v => Stays (.remove name :: later) v)
      = (chain.remove name).filter fun v => Stays later v := by
  rw [remove, List.filter_filter]
  refine List.filter_congr fun v _ => ?_
  rw [Bool.eq_iff_iff, Bool.and_eq_true, decide_eq_true_eq, decide_eq_true_eq, stays_cons,
    bne_iff_ne, ne_eq, ne_eq, Action.remove.injEq, and_comm, eq_comm]

/-- What is left of the entrants. -/
def survivors (entered : List (Validator × List Action)) : Chain :=
  (entered.filter fun e => Stays e.2 e.1).map Prod.fst

theorem survivors_append (first second : List (Validator × List Action)) :
    survivors (first ++ second) = survivors first ++ survivors second := by
  rw [survivors, List.filter_append, List.map_append]
  rfl

/-- Of validators that enter together, those are left whose name is not removed later. -/
theorem survivors_map (chain : Chain) (later : List Action) :
    survivors (chain.map fun v => (v, later)) = chain.filter fun v => Stays later v := by
  rw [survivors, List.filter_map, List.map_map]
  exact List.map_id _

/-! ## What is left -/

/-- **What is left of a chain.** Its own validators come first and then the added ones, less those
whose name is removed after they entered. -/
theorem afterAll_eq (chain : Chain) (actions : List Action) :
    chain.afterAll actions
      = (chain.filter fun v => Stays actions v) ++ survivors (added actions) := by
  induction actions generalizing chain with
  | nil =>
    have hall : (chain.filter fun v => Stays [] v) = chain :=
      List.filter_eq_self.mpr fun v _ => decide_eq_true (stays_nil v)
    rw [hall, added, survivors]
    exact (List.append_nil chain).symm
  | cons a later ih =>
    have hstep : chain.afterAll (a :: later) = (chain.after a).afterAll later := rfl
    rw [hstep, ih]
    cases a with
    | add v =>
      have hnew : survivors ((v, later) :: added later)
          = ([v].filter fun v => Stays later v) ++ survivors (added later) := by
        rw [← survivors_map, ← survivors_append]
        rfl
      have hno : ∀ name, Action.add v ≠ .remove name := nofun
      rw [filter_stays_cons hno, added, hnew, after, add, List.filter_append, List.append_assoc]
    | remove name => rw [filter_stays_remove, added, after]
    | checkSource source =>
      have hno : ∀ name, Action.checkSource source ≠ .remove name := nofun
      rw [filter_stays_cons hno, added, after]
    | checkDocument d =>
      have hno : ∀ name, Action.checkDocument d ≠ .remove name := nofun
      rw [filter_stays_cons hno, added, after]

/-! ## Single actions -/

theorem afterAll_append (chain : Chain) (first second : List Action) :
    chain.afterAll (first ++ second) = (chain.afterAll first).afterAll second :=
  List.foldl_append

theorem remove_of_not_mem {chain : Chain} {name : String} (h : name ∉ chain.names) :
    chain.remove name = chain := by
  rw [remove, List.filter_eq_self]
  intro v hv
  rw [bne_iff_ne]
  rintro rfl
  exact h (List.mem_map_of_mem hv)

theorem not_mem_names_remove (chain : Chain) (name : String) :
    name ∉ (chain.remove name).names := by
  intro h
  obtain ⟨v, hv, hname⟩ := List.mem_map.mp h
  have hne := (List.mem_filter.mp hv).2
  rw [bne_iff_ne] at hne
  exact hne hname

theorem remove_comm (chain : Chain) (name other : String) :
    (chain.remove name).remove other = (chain.remove other).remove name := by
  rw [remove, remove, remove, remove, List.filter_filter, List.filter_filter]
  refine List.filter_congr fun v _ => ?_
  rw [Bool.and_comm]

/-- **The validators that are left.** After any actions a chain holds those of the validators ever
in it whose name was not removed after they entered, in order of entry. So a check changes nothing,
whatever comes of it, and neither does the removal of a name that is not there; to remove a name
twice is to remove it once, two removals may be exchanged, and none of the name is left. A
validator whose name is not removed again stays where it was added, whatever was removed before.
The chain of a session is settled by the same rule, whatever requests come to a failing check in
between. -/
theorem afterAll_eq_survivors (chain : Chain) :
    (∀ actions, chain.afterAll actions = survivors (chain.entrants actions))
    ∧ (∀ before later source, chain.afterAll (before ++ .checkSource source :: later)
        = chain.afterAll (before ++ later))
    ∧ (∀ before later d, chain.afterAll (before ++ .checkDocument d :: later)
        = chain.afterAll (before ++ later))
    ∧ (∀ before later name, name ∉ (chain.afterAll before).names →
        chain.afterAll (before ++ .remove name :: later) = chain.afterAll (before ++ later))
    ∧ (∀ before later name, chain.afterAll (before ++ .remove name :: .remove name :: later)
        = chain.afterAll (before ++ .remove name :: later))
    ∧ (∀ before later name other,
        chain.afterAll (before ++ .remove name :: .remove other :: later)
          = chain.afterAll (before ++ .remove other :: .remove name :: later))
    ∧ (∀ before name, name ∉ (chain.afterAll (before ++ [.remove name])).names)
    ∧ (∀ before v later, Stays later v →
        chain.afterAll (before ++ .add v :: later)
          = ((chain.afterAll before).filter fun u => Stays later u)
            ++ v :: survivors (added later))
    ∧ ∀ (s : Session) (actions : List Session.Action), s.chain = chain →
        (s.after actions).chain
          = survivors (chain.entrants (actions.filterMap Session.Action.onChain?)) := by
  have hall : ∀ actions, chain.afterAll actions = survivors (chain.entrants actions) := by
    intro actions
    rw [afterAll_eq, entrants, survivors_append, survivors_map]
  have hafter : ∀ before a later, chain.afterAll (before ++ a :: later)
      = ((chain.afterAll before).after a).afterAll later :=
    fun before a later => afterAll_append chain before (a :: later)
  have hafter₂ : ∀ before a b later, chain.afterAll (before ++ a :: b :: later)
      = (((chain.afterAll before).after a).after b).afterAll later :=
    fun before a b later => afterAll_append chain before (a :: b :: later)
  refine ⟨hall, ?_, ?_, ?_, ?_, ?_, ?_, ?_, ?_⟩
  · intro before later source
    rw [hafter, afterAll_append, after]
  · intro before later d
    rw [hafter, afterAll_append, after]
  · intro before later name h
    rw [hafter, afterAll_append, after, remove_of_not_mem h]
  · intro before later name
    rw [hafter₂, hafter, after, after, remove_of_not_mem (not_mem_names_remove _ name)]
  · intro before later name other
    rw [hafter₂, hafter₂, after, after, after, after, remove_comm]
  · intro before name
    rw [hafter]
    exact not_mem_names_remove _ name
  · intro before v later h
    have hv : ([v].filter fun u => Stays later u) = [v] :=
      List.filter_eq_self.mpr fun u hu => decide_eq_true (List.mem_singleton.mp hu ▸ h)
    rw [hafter, after, add, afterAll_eq, List.filter_append, hv, List.append_assoc]
    rfl
  · rintro s actions rfl
    rw [Session.chain_after, hall]

/-- The semicolon check is removed, twice, and added again behind a check that breaks; then a source
is checked and the entry point is no longer asked for. What is left is the shader type, the check
that breaks, and the semicolon check in its new place. -/
theorem afterAll_eq_survivors_added_again :
    Stays [.checkSource "x = 1", .remove "EntryPointValidator"] Validator.terminator
    ∧ default.afterAll
        ([.remove "TerminatorValidator", .remove "TerminatorValidator",
          .add (Validator.breaking "broken" "RuntimeError" "no"), .checkSource ""]
          ++ .add Validator.terminator
            :: [.checkSource "x = 1", .remove "EntryPointValidator"])
      = [Validator.shaderType, Validator.breaking "broken" "RuntimeError" "no",
        Validator.terminator] := by
  have hstays : Stays [.checkSource "x = 1", .remove "EntryPointValidator"]
      Validator.terminator := by decide
  exact ⟨hstays, (afterAll_eq_survivors default).2.2.2.2.2.2.2.1 _ _ _ hstays⟩

end ShaderLint.Chain
