/-
Chains: the validators that a `ValidationEngine` runs on a source, in order.

A chain is run from its first validator to its last and gathers the diagnostics of all of them; no
defect stops it. Only a validator that fails does, and then its failure is the outcome and nothing
that was found before it is reported. A run changes nothing. What changes a chain is adding a
validator at its end and removing all validators of a name, and names need not be unique.
-/
import ShaderLint.Classify
import ShaderLint.Event
import ShaderLint.Validator

set_option autoImplicit false

namespace ShaderLint

/-- Validators in the order in which they run. -/
abbrev Chain := List Validator

namespace Chain

/-- The chain to start with: `_default_validators`. -/
def default : Chain := Validator.builtIn

/-- The names of the validators, in order. -/
def names (chain : Chain) : List String := chain.map (·.name)

/-- One validator more, at the end. -/
def add (chain : Chain) (v : Validator) : Chain := chain ++ [v]

/-- Without the validators of a name. -/
def remove (chain : Chain) (name : String) : Chain := chain.filter (·.name != name)

/-! ## Running a chain -/

/-- The diagnostics of all validators, in order, or the first failure: the loop of
`validate_document`. -/
def errors (chain : Chain) (d : Document) : Except Failure (List Diagnostic) :=
  match chain with
  | [] => .ok []
  | v :: rest =>
    match v.run d with
    | .error failure => .error failure
    | .ok found => (errors rest d).map (found ++ ·)

/-- Checks a document: `validate_document`. -/
def check (chain : Chain) (d : Document) : Except Failure Report :=
  (chain.errors d).map Report.ofErrors

/-- The event that tells of a finished check. -/
def completion (d : Document) (report : Report) : Event :=
  .validationComplete report.valid report.errors.length d.statements.length d.shaderType
    d.entryPoint

/-- Checks a source: `validate`. A check that comes to its end is told in the log. -/
def checkSource (chain : Chain) (source : String) : Except Failure Report × List Event :=
  let d := classify source
  match chain.check d with
  | .ok report => (.ok report, [completion d report])
  | .error failure => (.error failure, [])

/-! ## A chain in use -/

/-- What may be done with a chain. -/
inductive Action where
  | add (v : Validator)
  | remove (name : String)
  | checkSource (source : String)
  | checkDocument (d : Document)

def after (chain : Chain) : Action → Chain
  | .add v => chain.add v
  | .remove name => chain.remove name
  | .checkSource _ | .checkDocument _ => chain

/-- The chain after a sequence of actions. -/
def afterAll (chain : Chain) (actions : List Action) : Chain := actions.foldl after chain

end Chain

end ShaderLint
