/-
Reading data against a model.

A reading either succeeds or says everything that is wrong: the parts of an object are read
independently and their issues are put together in the order of the fields, so that one bad field
hides no other. Unlike with an error that stops, `f <$> a <*> b` therefore fails with the issues of
both.
-/
import ShaderLint.Schema.Issue

set_option autoImplicit false

namespace ShaderLint

/-- The outcome of reading a value. -/
inductive Reading (α : Type) where
  | good (value : α)
  | bad (issues : List Issue)

namespace Reading

/-- Changes what was read. -/
def map {α β : Type} (f : α → β) : Reading α → Reading β
  | .good a => .good (f a)
  | .bad issues => .bad issues

/-- Applies a function that was read to an argument that was read. -/
def seq {α β : Type} : Reading (α → β) → Reading α → Reading β
  | .good f, .good a => .good (f a)
  | .good _, .bad issues => .bad issues
  | .bad issues, .good _ => .bad issues
  | .bad first, .bad second => .bad (first ++ second)

instance : Functor Reading := ⟨map, fun a => map fun _ => a⟩

instance : Applicative Reading where
  pure := .good
  seq f a := seq f (a ())

def issues {α : Type} : Reading α → List Issue
  | .good _ => []
  | .bad issues => issues

/-- What was read, if the reading succeeded. -/
def value? {α : Type} : Reading α → Option α
  | .good a => some a
  | .bad _ => none

/-- Goes on with what was read. -/
def andThen {α β : Type} (r : Reading α) (f : α → Reading β) : Reading β :=
  match r with
  | .good a => f a
  | .bad issues => .bad issues

/-- One issue with the whole of an input. -/
def refuse {α : Type} (cause : Cause) (input : Json) : Reading α := .bad [⟨[], cause, input⟩]

/-- The reading of a part, seen from the whole. -/
def under {α : Type} (step : Step) : Reading α → Reading α
  | .good a => .good a
  | .bad issues => .bad (issues.map (·.under step))

/-- Readings of the items of a list, put together. -/
def all {α : Type} (readings : List (Reading α)) : Reading (List α) :=
  match readings.flatMap issues with
  | [] => .good (readings.filterMap value?)
  | found => .bad found

/-- The outcome under the title of a model. -/
def titled {α : Type} (title : String) : Reading α → Except Rejection α
  | .good a => .ok a
  | .bad issues => .error ⟨title, issues⟩

end Reading

/-! ## Objects and lists -/

/-- The members of an object, or a refusal for the given cause. -/
def readMembers (cause : Cause) : Json → Reading Json.Members
  | .obj members => .good members
  | input => .refuse cause input

/-- A field that has to be there. -/
def required {α : Type} (name : String) (read : Json → Reading α) (members : Json.Members) :
    Reading α :=
  Reading.under (.field name)
    (match Json.member? name members with
      | some value => read value
      | none => .refuse .missing (.obj members))

/-- A field that has a value even if it is not there. -/
def withDefault {α : Type} (name : String) (default : α) (read : Json → Reading α)
    (members : Json.Members) : Reading α :=
  match Json.member? name members with
  | some value => (read value).under (.field name)
  | none => .good default

/-- A list of values that are all read alike. -/
def readList {α : Type} (read : Json → Reading α) : Json → Reading (List α)
  | .arr items => .all (items.zipIdx.map fun (item, i) => (read item).under (.index i))
  | input => .refuse .notAList input

end ShaderLint
