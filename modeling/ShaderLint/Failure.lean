/-
Failures: what stops a check, instead of a report.

A check may come upon data that does not fit its model, it may object to a value, it may answer the
client itself, or it may break for a reason of its own. The first two are the fault of what was
handed in; whoever answers for the check tells the four apart.
-/
import ShaderLint.Schema.Issue

set_option autoImplicit false

namespace ShaderLint

/-- Why there is no report. -/
inductive Failure where
  /-- Data that does not fit its model. -/
  | rejected (rejection : Rejection)
  /-- A value that is not admitted, in the words of whoever objects to it. -/
  | badValue (message : String)
  /-- An answer of its own, with a status and a detail, besides its kind and its words. -/
  | refusal (kind message : String) (status : Nat) (detail : Json)
  /-- A check that broke, with the kind of its fault. -/
  | fault (kind message : String)
  deriving Repr

namespace Failure

/-- What a failure says, given the address at which a rejection lets more be read. -/
def message (failure : Failure) (help : String := "") : String :=
  match failure with
  | .rejected rejection => rejection.message help
  | .badValue message | .refusal _ message _ _ | .fault _ message => message

/-- The name of the kind of a failure. -/
def kind : Failure → String
  | .rejected _ => "ValidationError"
  | .badValue _ => "ValueError"
  | .refusal kind _ _ _ | .fault kind _ => kind

end Failure

end ShaderLint
