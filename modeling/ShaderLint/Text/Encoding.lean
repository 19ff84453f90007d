/-
Encodings told by their zero bytes.

A JSON text begins with two characters of ASCII, unless it is a single one, so the zeros among its
first bytes tell how wide its characters are written and which byte comes first. Where there are no
zeros the text is written in UTF-8, and that is how it has been read already. Half a pair of
surrogates is let pass, and a stand-in takes its place.
-/
import ShaderLint.Text.Half

set_option autoImplicit false

namespace ShaderLint.Text

/-- How the characters of a text are written. -/
inductive Encoding where
  | utf8
  | utf16 (bigEndian : Bool)
  | utf32 (bigEndian : Bool)
  deriving DecidableEq, Repr

namespace Encoding

/-- The encoding of a text, by its bytes. -/
def ofBytes : List UInt8 → Encoding
  | a :: b :: c :: d :: _ =>
    if a = 0 then (if b = 0 then .utf32 true else .utf16 true)
    else if b = 0 then (if c = 0 ∧ d = 0 then .utf32 false else .utf16 false)
    else .utf8
  | [a, b] => if a = 0 then .utf16 true else if b = 0 then .utf16 false else .utf8
  | _ => .utf8

/-- The number that two units make. -/
def pair (bigEndian : Bool) (base first second : Nat) : Nat :=
  if bigEndian then first * base + second else second * base + first

/-- The numbers that the bytes make two by two, after those already made, which stand backwards.
None may be left over. -/
def units? (bigEndian : Bool) (base : Nat) (done : List Nat) : List Nat → Option (List Nat)
  | [] => some done.reverse
  | [_] => none
  | a :: b :: rest => units? bigEndian base (pair bigEndian base a b :: done) rest

/-- The characters of units of sixteen bits, after those already read, which stand backwards. -/
def charsFrom (set : StandIns) (done : List Char) : List Nat → List Char
  | [] => done.reverse
  | [n] => (set.charOf n :: done).reverse
  | a :: b :: rest =>
    if isHighHalf a && isLowHalf b then charsFrom set (charOfPair a b :: done) rest
    else charsFrom set (set.charOf a :: done) (b :: rest)

/-- Reads a text, given its bytes and what it is in UTF-8. -/
def read? (encoding : Encoding) (set : StandIns) (bytes : List UInt8) (cs : List Char) :
    Option (List Char) :=
  let numbers := bytes.map UInt8.toNat
  match encoding with
  | .utf8 => some cs
  | .utf16 bigEndian => (units? bigEndian 0x100 [] numbers).map (charsFrom set [])
  | .utf32 bigEndian => do
    let halves ← units? bigEndian 0x100 [] numbers
    let points ← units? bigEndian 0x10000 [] halves
    guard (points.all (· ≤ 0x10FFFF))
    return points.map set.charOf

end Encoding

/-- The characters of a text that has been read as UTF-8, in the encoding that its zero bytes
tell. There are none if its bytes do not fit that encoding. Without a zero among the first two
characters there is none to tell anything. -/
def decoded? (set : StandIns) (cs : List Char) : Option (List Char) :=
  if (cs.take 2).contains '\x00' then
    let bytes := cs.flatMap String.utf8EncodeChar
    (Encoding.ofBytes bytes).read? set bytes cs
  else some cs

end ShaderLint.Text
