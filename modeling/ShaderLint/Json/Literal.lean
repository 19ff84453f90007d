/-
Values as they are shown inside a message.

The form is the one in which the values of a configuration would be typed in: `None`, `True` and
`False`, texts in quotes, lists in brackets and members in braces. Each value also has the name of
its type. A shown value is cut to fifty bytes like any shown text.
-/
import ShaderLint.Json.Basic
import ShaderLint.Number.Shortest
import ShaderLint.Text.Quoted

set_option autoImplicit false

namespace ShaderLint.Json

/-- The names under which the numbers that are not finite are shown. -/
def shownWords : Binary64.SpecialWords := ⟨"inf", "nan"⟩

/-- Shown values between two marks, commas between them. -/
def enclosed (first last : Char) (shown : List (List Char)) : List Char :=
  first :: (List.intercalate [',', ' '] shown ++ [last])

mutual

/-- A value in full. -/
def literal : Json → List Char
  | .null => "None".toList
  | .bool b => (if b then "True" else "False").toList
  | .int n => (toString n).toList
  | .real x => (x.text shownWords).toList
  | .str s => Text.quoted s.toList
  | .arr items => enclosed '[' ']' (literalItems items)
  | .obj members => enclosed '{' '}' (literalMembers members)

/-- The items of a list in full. -/
def literalItems : List Json → List (List Char)
  | [] => []
  | item :: items => literal item :: literalItems items

/-- The members of an object in full. -/
def literalMembers : Members → List (List Char)
  | [] => []
  | (name, value) :: members =>
    (Text.quoted name.toList ++ ':' :: ' ' :: literal value) :: literalMembers members

end

/-- A value as it is shown in a message. -/
def shown (value : Json) : String := String.ofList (Text.abbreviated value.literal)

/-- The name of the type of a value. -/
def typeName : Json → String
  | .null => "NoneType"
  | .bool _ => "bool"
  | .int _ => "int"
  | .real _ => "float"
  | .str _ => "str"
  | .arr _ => "list"
  | .obj _ => "dict"

end ShaderLint.Json
