/-
The models of the service, by name.

A client may ask for any of them to be read. A value that was read can then be changed field by
field, and the new value of a field is taken as it is; statements and documents, however, are frozen
and never change.
-/
import ShaderLint.Diagnostic.Json
import ShaderLint.Document.Json
import ShaderLint.Failure
import ShaderLint.Service.Health
import ShaderLint.Service.Submission

set_option autoImplicit false

namespace ShaderLint

inductive Model where
  | statement
  | document
  | diagnostic
  | report
  | submission
  | health
  deriving DecidableEq, Repr

namespace Model

def all : List Model := [.statement, .document, .diagnostic, .report, .submission, .health]

def title : Model → String
  | .statement => Statement.title
  | .document => Document.title
  | .diagnostic => Diagnostic.title
  | .report => Report.title
  | .submission => Submission.title
  | .health => Health.title

def ofTitle? (title : String) : Option Model := all.find? (·.title == title)

/-- Whether the values of a model never change. -/
def isFrozen : Model → Bool
  | .statement | .document => true
  | .diagnostic | .report | .submission | .health => false

/-- Reads a value and writes it out again with all its fields. -/
def normalize (model : Model) (input : Json) : Except Rejection Json :=
  let reading : Reading Json := match model with
    | .statement => Statement.toJson <$> Statement.read input
    | .document => Document.toJson <$> Document.read input
    | .diagnostic => Diagnostic.toJson <$> Diagnostic.read input
    | .report => Report.toJson <$> Report.read input
    | .submission => Submission.toJson <$> Submission.read input
    | .health => Health.toJson <$> Health.read input
  reading.titled model.title

/-- Changes a field of a value. The value must not be frozen and must have the field. A name that
begins with a low line is no name of a field; what is stored under it is not seen again. -/
def assign (model : Model) (value : Json) (field : String) (item : Json) : Except Failure Json :=
  if field.toList.head? = some '_' then .ok value
  else if model.isFrozen then .error (.rejected ⟨model.title, [⟨[.field field], .frozen, item⟩]⟩)
  else match value with
    | .obj members =>
      if members.any (·.1 == field) then .ok (.obj (Json.putMember field item members))
      else .error (.badValue ("\"" ++ model.title ++ "\" object has no field \"" ++ field ++ "\""))
    | _ => .ok value

end Model

end ShaderLint
