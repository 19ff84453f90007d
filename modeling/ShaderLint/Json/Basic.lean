/-
JSON values.

Integers are unbounded and kept apart from the numbers written with a point or an exponent, since a
reader of data treats `1` and `1.0` differently. The members of an object stay in the order in
which they were written, and a name may occur more than once: the last one counts.
-/
import ShaderLint.Number.Binary64

set_option autoImplicit false

namespace ShaderLint

/-- A JSON value. -/
inductive Json where
  | null
  | bool (b : Bool)
  | int (n : Int)
  | real (x : Binary64)
  | str (s : String)
  | arr (items : List Json)
  | obj (members : List (String × Json))
  deriving Repr, BEq, Inhabited

namespace Json

abbrev Members := List (String × Json)

/-- The value under a name, the last one if the name occurs more than once. -/
def member? (name : String) (members : Members) : Option Json :=
  members.foldl (fun found (n, value) => if n = name then some value else found) none

/-- The value under a name, if this is an object that has one. -/
def get? (name : String) : Json → Option Json
  | .obj members => member? name members
  | _ => none

/-- A text, or null where there is none. -/
def ofOption : Option String → Json
  | some s => .str s
  | none => .null

/-- A list of texts. -/
def ofStrings (texts : List String) : Json := .arr (texts.map .str)

/-- Puts a value under a name: in its place if the name is there, at the end otherwise. -/
def putMember (name : String) (value : Json) : Members → Members
  | [] => [(name, value)]
  | (n, v) :: rest =>
    if n = name then (n, value) :: rest else (n, v) :: putMember name value rest

mutual

/-- Whether every number in the value is finite, so that the value can be written as JSON. -/
def allFinite : Json → Bool
  | .real x => x.isFinite
  | .arr items => allFiniteItems items
  | .obj members => allFiniteMembers members
  | .null | .bool _ | .int _ | .str _ => true

/-- Whether every number in a list of values is finite. -/
def allFiniteItems : List Json → Bool
  | [] => true
  | item :: items => item.allFinite && allFiniteItems items

/-- Whether every number in the members of an object is finite. -/
def allFiniteMembers : Members → Bool
  | [] => true
  | (_, value) :: members => value.allFinite && allFiniteMembers members

end

end Json

end ShaderLint
