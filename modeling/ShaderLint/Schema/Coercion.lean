/-
Scalars, and what is taken for them.

A text has to be a text. An integer, a truth value and a number are also taken in other clothes:
an integer as a whole number, as a truth value or written out; a truth value as zero or one or by
one of its usual words; a number as an integer, as a truth value or written out. What is refused is
refused for one of two reasons, that the input is of a wrong type altogether, or that it is of a
type that might have served and does not.
-/
import ShaderLint.LineNumber
import ShaderLint.Schema.Numeral
import ShaderLint.Schema.Reading

set_option autoImplicit false

namespace ShaderLint

/-! ## Reading scalars -/

def readText : Json → Reading String
  | .str s => .good s
  | input => .refuse .notAText input

/-- A text, or null for none. -/
def readTextOrNull : Json → Reading (Option String)
  | .null => .good none
  | input => some <$> readText input

/-- Whether an integer fits into 64 bits. -/
def fitsWord (n : Int) : Bool := -0x8000000000000000 ≤ n && n < 0x8000000000000000

/-- Whether a whole number in the binary format is taken for an integer: it fits into 64 bits and is
not the least that does. -/
def isWhole (n : Int) : Bool := fitsWord n && n != -0x8000000000000000

def readInteger (input : Json) : Reading Int :=
  match input with
  | .int n => .good n
  | .bool b => .good (if b then 1 else 0)
  | .real x =>
    if !x.isFinite then .refuse .notFinite input
    else match x.toInt? with
      | some n => if isWhole n then .good n else .refuse .integerSize input
      | none => .refuse .fraction input
  | .str s =>
    match Numeral.integer s with
    | .value n => .good n
    | .tooLong => .refuse .integerSize input
    | .none => .refuse .integerSyntax input
  | .null | .arr _ | .obj _ => .refuse .notAnInteger input

/-- The number of a line, from one on. -/
def readLineNumber (input : Json) : Reading LineNumber :=
  (readInteger input).andThen fun n =>
    match LineNumber.ofNat? n.toNat with
    | some line => .good line
    | none => .refuse .belowOne input

def falseWords : List String := ["0", "off", "f", "false", "n", "no"]

def trueWords : List String := ["1", "on", "t", "true", "y", "yes"]

/-- A truth value as an integer. -/
def readTruth (input : Json) (n : Int) : Reading Bool :=
  if n = 0 then .good false else if n = 1 then .good true else .refuse .booleanSyntax input

def readBoolean (input : Json) : Reading Bool :=
  match input with
  | .bool b => .good b
  | .int n => if fitsWord n then readTruth input n else .refuse .notABoolean input
  | .real x =>
    match x.toInt? with
    | some n => if isWhole n then readTruth input n else .refuse .notABoolean input
    | none => .refuse .notABoolean input
  | .str s =>
    let word := String.ofList (s.toList.map Char.toLower)
    if falseWords.contains word then .good false
    else if trueWords.contains word then .good true
    else .refuse .booleanSyntax input
  | .null | .arr _ | .obj _ => .refuse .notABoolean input

/-- A number. An integer too large for the binary format is refused. -/
def readNumber (input : Json) : Reading Binary64 :=
  match input with
  | .real x => .good x
  | .int n =>
    let x := Binary64.ofInt n
    if x.isFinite then .good x else .refuse .notANumber input
  | .bool b => .good (.ofInt (if b then 1 else 0))
  | .str s =>
    match Numeral.number? s with
    | some x => .good x
    | none => .refuse .numberSyntax input
  | .null | .arr _ | .obj _ => .refuse .notANumber input

/-- One of a few texts, each of which stands for a value. -/
def readOneOf {α : Type} (cause : List String → Cause) (choices : List (String × α))
    (input : Json) : Reading α :=
  match input with
  | .str s =>
    match choices.lookup s with
    | some a => .good a
    | none => .refuse (cause (choices.map Prod.fst)) input
  | _ => .refuse (cause (choices.map Prod.fst)) input

end ShaderLint
