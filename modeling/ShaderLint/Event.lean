/-
Events: what the log tells about a run.

Each kind of event has fields of its own; as JSON, an event is one flat object that also holds its
name and its level.
-/
import ShaderLint.Json.Basic

set_option autoImplicit false

namespace ShaderLint

/-- What happened. -/
inductive Event where
  /-- A source was checked to the end. -/
  | validationComplete (valid : Bool) (totalErrors statements : Nat)
      (shaderType entryPoint : Option String)
  /-- A source was refused for its length. -/
  | sourceRejected (length : Nat) (limit : Int)
  /-- A request broke the service. -/
  | unhandledFailure (path method error kind : String)
  /-- The service starts. -/
  | starting (debug : Bool) (maxSourceLength : Int)
  /-- The service has stopped. -/
  | stopped
  deriving DecidableEq, Repr

namespace Event

/-- The name of the kind of an event. -/
def name : Event → String
  | .validationComplete .. => "validation_complete"
  | .sourceRejected .. => "source_rejected"
  | .unhandledFailure .. => "unhandled_exception"
  | .starting .. => "app_starting"
  | .stopped => "app_stopped"

/-- How grave an event is. -/
def level : Event → String
  | .sourceRejected .. => "warning"
  | .unhandledFailure .. => "error"
  | .validationComplete .. | .starting .. | .stopped => "info"

/-- The fields that a kind of event has of its own. -/
def fields : Event → Json.Members
  | .validationComplete valid totalErrors statements shaderType entryPoint =>
    [("valid", .bool valid), ("total_errors", .int totalErrors), ("statements", .int statements),
     ("shader_type", .ofOption shaderType), ("entry_point", .ofOption entryPoint)]
  | .sourceRejected length limit => [("length", .int length), ("limit", .int limit)]
  | .unhandledFailure path method error kind =>
    [("path", .str path), ("method", .str method), ("error", .str error),
     ("error_type", .str kind)]
  | .starting debug maxSourceLength =>
    [("debug", .bool debug), ("max_source_length", .int maxSourceLength)]
  | .stopped => []

def toJson (e : Event) : Json :=
  .obj (e.fields ++ [("event", .str e.name), ("log_level", .str e.level)])

end Event

end ShaderLint
