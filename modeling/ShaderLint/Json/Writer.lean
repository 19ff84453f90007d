/-
JSON texts.

A value is written on one line with a space after each comma and colon, in ASCII only: a character
outside ASCII becomes one escape, or a pair of them where its number takes more than sixteen bits.
Numbers that are not finite are written by name, which strict readers refuse.
-/
import ShaderLint.Json.Basic
import ShaderLint.Number.Shortest
import ShaderLint.Text.Hex

set_option autoImplicit false

namespace ShaderLint.Json

/-- The names under which the numbers that are not finite are written. -/
def specialWords : Binary64.SpecialWords := ⟨"Infinity", "NaN"⟩

/-- An escape by number, for a 16-bit unit. -/
def escapeUnit (n : Nat) : List Char := '\\' :: 'u' :: Text.hexDigits 4 n

/-- One character of a text. -/
def escapeChar (c : Char) : List Char :=
  if c = '"' ∨ c = '\\' then ['\\', c]
  else if c = '\n' then ['\\', 'n']
  else if c = '\r' then ['\\', 'r']
  else if c = '\t' then ['\\', 't']
  else if c = '\x08' then ['\\', 'b']
  else if c = '\x0c' then ['\\', 'f']
  else if 0x20 ≤ c.toNat ∧ c.toNat < 0x7F then [c]
  else if c.toNat < 0x10000 then escapeUnit c.toNat
  else
    let n := c.toNat - 0x10000
    escapeUnit (0xD800 + n / 0x400) ++ escapeUnit (0xDC00 + n % 0x400)

/-- Writes characters after what is written already. -/
def pushChars (out : String) (cs : List Char) : String := cs.foldl String.push out

def pushText (out s : String) : String :=
  (s.toList.foldl (fun out c => pushChars out (escapeChar c)) (out.push '"')).push '"'

mutual

def push (out : String) : Json → String
  | .null => out ++ "null"
  | .bool b => out ++ (if b then "true" else "false")
  | .int n => out ++ toString n
  | .real x => out ++ x.text specialWords
  | .str s => pushText out s
  | .arr [] => out ++ "[]"
  | .arr (item :: items) => (pushItems (push (out.push '[') item) items).push ']'
  | .obj [] => out ++ "\x7b\x7d"
  | .obj ((name, value) :: members) =>
    (pushMembers (push (pushText (out.push '{') name ++ ": ") value) members).push '}'

/-- Writes the items of a list after the first. -/
def pushItems (out : String) : List Json → String
  | [] => out
  | item :: items => pushItems (push (out ++ ", ") item) items

/-- Writes the members of an object after the first. -/
def pushMembers (out : String) : Members → String
  | [] => out
  | (name, value) :: members =>
    pushMembers (push (pushText (out ++ ", ") name ++ ": ") value) members

end

def write (value : Json) : String := push "" value

end ShaderLint.Json
