/-
What can be wrong with data.

A value that does not fit its model gives a list of issues, each with the place in the value, the
cause and the offending input; a rejection is such a list under the title of the model. The wording
of a cause is decided here and nowhere else, but for the address at which more is to be read: that
is handed in.
-/
import ShaderLint.Json.Literal

set_option autoImplicit false

namespace ShaderLint

/-! ## Places -/

/-- One step of the way from a value to a part of it. -/
inductive Step where
  | field (name : String)
  | index (i : Nat)
  deriving DecidableEq, Repr

def Step.toJson : Step → Json
  | .field name => .str name
  | .index i => .int i

def Step.text : Step → String
  | .field name => name
  | .index i => toString i

/-! ## Causes -/

/-- Why a value does not fit. -/
inductive Cause where
  /-- A field that has to be there is not. -/
  | missing
  /-- No object, where one of the named model is expected. -/
  | notAModel (model : String)
  /-- No object, where the fields of one are expected. -/
  | notAnObject
  | notAList
  | notAText
  | notAnInteger
  /-- A text that is no integer. -/
  | integerSyntax
  /-- A text too long to be read as an integer, or a number too large. -/
  | integerSize
  /-- A number with a fractional part. -/
  | fraction
  /-- A number that is infinite, or none at all. -/
  | notFinite
  /-- An integer less than one. -/
  | belowOne
  | notABoolean
  /-- A text or a number that is not among those that stand for a truth value. -/
  | booleanSyntax
  | notANumber
  /-- A text that is no number. -/
  | numberSyntax
  /-- Not one of the names of an enumeration. -/
  | notInEnumeration (names : List String)
  /-- Not one of the texts that may stand here. -/
  | notAChoice (texts : List String)
  /-- A change to a value that may not change. -/
  | frozen
  /-- A name that is not known. -/
  | unknownName
  deriving DecidableEq, Repr

namespace Cause

def type : Cause → String
  | .missing => "missing"
  | .notAModel _ => "model_type"
  | .notAnObject => "model_attributes_type"
  | .notAList => "list_type"
  | .notAText => "string_type"
  | .notAnInteger => "int_type"
  | .integerSyntax => "int_parsing"
  | .integerSize => "int_parsing_size"
  | .fraction => "int_from_float"
  | .notFinite => "finite_number"
  | .belowOne => "greater_than_equal"
  | .notABoolean => "bool_type"
  | .booleanSyntax => "bool_parsing"
  | .notANumber => "float_type"
  | .numberSyntax => "float_parsing"
  | .notInEnumeration _ => "enum"
  | .notAChoice _ => "literal_error"
  | .frozen => "frozen_instance"
  | .unknownName => "extra_forbidden"

/-- Texts in quotes, with commas between them and "or" before the last. -/
def alternatives : List String → String
  | [] => ""
  | [last] => "'" ++ last ++ "'"
  | [first, last] => "'" ++ first ++ "' or '" ++ last ++ "'"
  | first :: rest => "'" ++ first ++ "', " ++ alternatives rest

def message : Cause → String
  | .missing => "Field required"
  | .notAModel model => "Input should be a valid dictionary or instance of " ++ model
  | .notAnObject => "Input should be a valid dictionary or object to extract fields from"
  | .notAList => "Input should be a valid list"
  | .notAText => "Input should be a valid string"
  | .notAnInteger => "Input should be a valid integer"
  | .integerSyntax =>
    "Input should be a valid integer, unable to parse string as an integer"
  | .integerSize => "Unable to parse input string as an integer, exceeded maximum size"
  | .fraction => "Input should be a valid integer, got a number with a fractional part"
  | .notFinite => "Input should be a finite number"
  | .belowOne => "Input should be greater than or equal to 1"
  | .notABoolean => "Input should be a valid boolean"
  | .booleanSyntax => "Input should be a valid boolean, unable to interpret input"
  | .notANumber => "Input should be a valid number"
  | .numberSyntax => "Input should be a valid number, unable to parse string as a number"
  | .notInEnumeration names => "Input should be " ++ alternatives names
  | .notAChoice texts => "Input should be " ++ alternatives texts
  | .frozen => "Instance is frozen"
  | .unknownName => "Extra inputs are not permitted"

end Cause

/-! ## Issues and rejections -/

structure Issue where
  /-- The way to the place. -/
  place : List Step
  cause : Cause
  /-- The value at the place; for a field that is missing, the object that lacks it. -/
  input : Json
  deriving Repr

/-- The issue, seen from one step further out. -/
def Issue.under (step : Step) (issue : Issue) : Issue :=
  { issue with place := step :: issue.place }

/-- A value that does not fit its model. -/
structure Rejection where
  /-- The name of the model. -/
  title : String
  issues : List Issue
  deriving Repr

namespace Rejection

/-- An issue in a message: its place, unless that is the whole value, what is wrong with which
input, and where more is to be read: at the address `help`, under the name of the cause. -/
def issueLines (help : String) (issue : Issue) : List String :=
  let place := ".".intercalate (issue.place.map Step.text)
  (if issue.place.isEmpty then [] else [place]) ++
    ["  " ++ issue.cause.message ++ " [type=" ++ issue.cause.type ++ ", input_value="
        ++ issue.input.shown ++ ", input_type=" ++ issue.input.typeName ++ "]",
     "    For further information visit " ++ help ++ issue.cause.type]

/-- The whole message. -/
def message (r : Rejection) (help : String) : String :=
  let count := r.issues.length
  "\n".intercalate
    ((toString count ++ " validation error" ++ (if count = 1 then "" else "s") ++ " for " ++ r.title)
      :: r.issues.flatMap (issueLines help))

end Rejection

end ShaderLint
