/-
Reading JSON.

The reader takes a text apart from the left and stops at the first fault, which it reports with the
position, in characters, where it stands. Two positions are not where it stands: an unclosed text is
reported at its opening quote, and a wrong escape at its backslash (or at the `u`, if it is an
escape by number). It takes more than the standard: the three names for numbers that are not
finite, and a text may hold any character from U+0020 on.

A number ends where it stops being one. What is left of `01` or `1.` is then found after the value,
and is reported as such.

Every step consumes a character before it goes deeper, so twice the length of the text is more than
enough fuel; nesting is limited besides, and so is the length of an integer.
-/
import ShaderLint.Json.Basic
import ShaderLint.Text.Half
import ShaderLint.Text.Hex

set_option autoImplicit false

namespace ShaderLint.Json

/-! ## Faults -/

/-- What can be wrong with a text. -/
inductive Fault where
  | value
  | propertyName
  | colon
  | comma
  | extraData
  | unclosedText
  | controlCharacter
  | escape
  | unicodeEscape
  /-- Values nested too deeply. -/
  | nesting
  /-- An integer with too many digits. -/
  | longInteger
  deriving DecidableEq, Repr

def Fault.message : Fault → String
  | .value => "Expecting value"
  | .propertyName => "Expecting property name enclosed in double quotes"
  | .colon => "Expecting ':' delimiter"
  | .comma => "Expecting ',' delimiter"
  | .extraData => "Extra data"
  | .unclosedText => "Unterminated string starting at"
  | .controlCharacter => "Invalid control character at"
  | .escape => "Invalid \\escape"
  | .unicodeEscape => "Invalid \\uXXXX escape"
  | .nesting => "Nesting too deep"
  | .longInteger => "Integer too long"

/-- Whether the text is refused for its size rather than for its form. -/
def Fault.isLimit : Fault → Bool
  | .nesting | .longInteger => true
  | .value | .propertyName | .colon | .comma | .extraData | .unclosedText | .controlCharacter
  | .escape | .unicodeEscape => false

/-- A fault and its position. -/
structure SyntaxError where
  fault : Fault
  position : Nat
  deriving DecidableEq, Repr

/-- How deep values may be nested. -/
def nestingLimit : Nat := 960

/-- How many digits an integer may have. -/
def digitLimit : Nat := 4300

/-! ## Where the reader stands -/

/-- What is left of the text, and the position of its first character. -/
structure Cursor where
  rest : List Char
  position : Nat

/-- The result of reading something: it and where the reader stands after it, or the first fault. -/
abbrev Read (α : Type) := Except SyntaxError (α × Cursor)

/-- Stops with a fault where the reader stands. -/
def Cursor.stop {α : Type} (here : Cursor) (fault : Fault) : Read α := .error ⟨fault, here.position⟩

/-- Passes over some characters. -/
def Cursor.skip (here : Cursor) (count : Nat) : Cursor :=
  ⟨here.rest.drop count, here.position + count⟩

/-- The four characters that may stand between tokens. -/
def isSpace (c : Char) : Bool := c == ' ' || c == '\t' || c == '\n' || c == '\r'

/-- Passes over spaces. -/
def Cursor.skipSpaces (here : Cursor) : Cursor :=
  here.skip (here.rest.takeWhile isSpace).length

/-! ## Texts -/

/-- The character a one-letter escape stands for. -/
def escaped? : Char → Option Char
  | '"' => some '"'
  | '\\' => some '\\'
  | '/' => some '/'
  | 'b' => some '\x08'
  | 'f' => some '\x0c'
  | 'n' => some '\n'
  | 'r' => some '\r'
  | 't' => some '\t'
  | _ => none

/-- Four digits of an escape by number. The text may not end with them. -/
def fourDigits? : List Char → Option (Nat × List Char)
  | a :: b :: c :: d :: next :: rest => do
    let n := (((← Text.hexValue? a) * 16 + (← Text.hexValue? b)) * 16 + (← Text.hexValue? c)) * 16
    some (n + (← Text.hexValue? d), next :: rest)
  | _ => none

/-- What follows is shorter, so reading on comes to an end. -/
theorem length_of_fourDigits? {cs rest : List Char} {n : Nat}
    (h : fourDigits? cs = some (n, rest)) : rest.length < cs.length := by
  unfold fourDigits? at h
  split at h
  · simp only [Option.bind_eq_bind, Option.bind_eq_some_iff, Option.some.injEq, Prod.mk.injEq] at h
    obtain ⟨_, _, _, _, _, _, _, _, _, rfl⟩ := h
    simp
  · simp at h

/-- What an escape by number may be followed by, once its own number is read. -/
inductive AfterEscape where
  /-- Nothing that belongs to it. -/
  | alone
  /-- The other half of the pair, and what is left after it. -/
  | paired (low : Nat) (rest : List Char)
  /-- A second escape that is none. -/
  | broken

/-- Looks for the second half of a pair. A second escape at the very end of a text is left for the
next step to find. -/
def secondHalf (high : Nat) (cs : List Char) : AfterEscape :=
  match Text.isHighHalf high, cs with
  | true, '\\' :: 'u' :: more =>
    if (more.drop 4).isEmpty then .alone
    else match fourDigits? more with
      | none => .broken
      | some (low, rest) => if Text.isLowHalf low then .paired low rest else .alone
  | _, _ => .alone

theorem length_of_secondHalf {high low : Nat} {cs rest : List Char}
    (h : secondHalf high cs = .paired low rest) : rest.length < cs.length := by
  unfold secondHalf at h
  split at h
  · split at h
    · simp at h
    · split at h
      · simp at h
      · rename_i hfour
        split at h
        · simp only [AfterEscape.paired.injEq] at h
          obtain ⟨rfl, rfl⟩ := h
          have := length_of_fourDigits? hfour
          simp only [List.length_cons]
          omega
        · simp at h
  · simp at h

section Texts

variable (set : Text.StandIns)

/-- The rest of a text whose opening quote stands at `start`, given what has been read of it,
backwards. -/
def textFrom (start : Nat) (read : List Char) (cs : List Char) (position : Nat) : Read String :=
  match cs with
  | [] => .error ⟨.unclosedText, start⟩
  | c :: cs =>
    if c = '"' then .ok (String.ofList read.reverse, ⟨cs, position + 1⟩)
    else if c = '\\' then
      match cs with
      | [] => .error ⟨.unclosedText, start⟩
      | e :: cs =>
        if e = 'u' then
          match h : fourDigits? cs with
          | none => .error ⟨.unicodeEscape, position + 1⟩
          | some (n, after) =>
            have := length_of_fourDigits? h
            match h₂ : secondHalf n after with
            | .alone => textFrom start (set.charOf n :: read) after (position + 6)
            | .paired low after₂ =>
              have := length_of_secondHalf h₂
              textFrom start (Text.charOfPair n low :: read) after₂ (position + 12)
            | .broken => .error ⟨.unicodeEscape, position + 7⟩
        else
          match escaped? e with
          | some e => textFrom start (e :: read) cs (position + 2)
          | none => .error ⟨.escape, position⟩
    else if c.toNat < 0x20 then .error ⟨.controlCharacter, position⟩
    else textFrom start (c :: read) cs (position + 1)
termination_by cs.length

/-- A text, from after its opening quote. -/
def textAfterQuote (here : Cursor) : Read String :=
  textFrom set (here.position - 1) [] here.rest here.position

end Texts

/-! ## Numbers -/

/-- The value of a run of decimal digits. -/
def digitsValue (digits : List Char) : Nat :=
  digits.foldl (fun n d => n * 10 + (d.toNat - '0'.toNat)) 0

/-- The digits of an integer part at the front: a zero alone, or a run that begins otherwise. -/
def integerPart (cs : List Char) : List Char :=
  match cs with
  | '0' :: _ => ['0']
  | _ => cs.takeWhile Char.isDigit

/-- The digits of a fraction at the front, without the point; none if there is no fraction. -/
def fractionPart (cs : List Char) : List Char :=
  match cs with
  | '.' :: rest => rest.takeWhile Char.isDigit
  | _ => []

/-- An exponent at the front, with the number of its characters. -/
def exponentPart? (cs : List Char) : Option (Int × Nat) :=
  match cs with
  | e :: rest =>
    if e = 'e' ∨ e = 'E' then
      let (negative, signs, rest) := match rest with
        | '-' :: rest => (true, 1, rest)
        | '+' :: rest => (false, 1, rest)
        | _ => (false, 0, rest)
      match rest.takeWhile Char.isDigit with
      | [] => none
      | digits =>
        let n := digitsValue digits
        some (if negative then -n else n, 1 + signs + digits.length)
    else none
  | [] => none

/-- A number, whose sign has been seen. Without a fraction and without an exponent it is an
integer. -/
def number (start : Cursor) (negative : Bool) (digitsAt : Cursor) : Read Json :=
  match integerPart digitsAt.rest with
  | [] => start.stop .value
  | whole =>
    let afterWhole := digitsAt.skip whole.length
    let fraction := fractionPart afterWhole.rest
    let afterFraction :=
      if fraction.isEmpty then afterWhole else afterWhole.skip (1 + fraction.length)
    match fraction, exponentPart? afterFraction.rest with
    | [], none =>
      if digitLimit < whole.length then start.stop .longInteger
      else
        let n := Int.ofNat (digitsValue whole)
        .ok (.int (if negative then -n else n), afterFraction)
    | _, exponent =>
      let (tens, length) := exponent.getD (0, 0)
      let digits := digitsValue (whole ++ fraction)
      .ok (.real (.ofDecimal negative digits (tens - fraction.length)), afterFraction.skip length)

/-! ## Values -/

/-- The words that are values. -/
def words : List (String × Json) :=
  [("null", .null), ("true", .bool true), ("false", .bool false), ("NaN", .real .notANumber),
   ("Infinity", .real (.infinite false)), ("-Infinity", .real (.infinite true))]

/-- A word at the front. -/
def word? (here : Cursor) : Option (Json × Cursor) :=
  words.findSome? fun (name, value) =>
    if name.toList.isPrefixOf here.rest then some (value, here.skip name.length) else none

/-- A value that is not a list, an object or a text. -/
def scalar (here : Cursor) : Read Json :=
  match word? here with
  | some read => .ok read
  | none =>
    match here.rest with
    | '-' :: _ => number here true (here.skip 1)
    | _ => number here false here

section Values

variable (set : Text.StandIns)

mutual

/-- A value where the reader stands, at the given depth. -/
def value (fuel depth : Nat) (here : Cursor) : Read Json :=
  match fuel with
  | 0 => here.stop .nesting
  | fuel + 1 =>
    match here.rest with
    | '"' :: _ => (textAfterQuote set (here.skip 1)).map fun (s, after) => (.str s, after)
    | '[' :: _ =>
      if nestingLimit ≤ depth then here.stop .nesting
      else
        let inside := (here.skip 1).skipSpaces
        match inside.rest with
        | ']' :: _ => .ok (.arr [], inside.skip 1)
        | _ => items fuel (depth + 1) [] inside
    | '{' :: _ =>
      if nestingLimit ≤ depth then here.stop .nesting
      else
        let inside := (here.skip 1).skipSpaces
        match inside.rest with
        | '}' :: _ => .ok (.obj [], inside.skip 1)
        | _ => members fuel (depth + 1) [] inside
    | _ => scalar here

/-- The items of a list from an item on, given those already read, backwards. -/
def items (fuel depth : Nat) (done : List Json) (here : Cursor) : Read Json :=
  match fuel with
  | 0 => here.stop .nesting
  | fuel + 1 =>
    match value fuel depth here with
    | .error e => .error e
    | .ok (item, after) =>
      let next := after.skipSpaces
      match next.rest with
      | ']' :: _ => .ok (.arr (item :: done).reverse, next.skip 1)
      | ',' :: _ => items fuel depth (item :: done) (next.skip 1).skipSpaces
      | _ => next.stop .comma

/-- The members of an object from a name on, given those already read, backwards. -/
def members (fuel depth : Nat) (done : Members) (here : Cursor) : Read Json :=
  match fuel with
  | 0 => here.stop .nesting
  | fuel + 1 =>
    match here.rest with
    | '"' :: _ =>
      match textAfterQuote set (here.skip 1) with
      | .error e => .error e
      | .ok (name, after) =>
        let colon := after.skipSpaces
        match colon.rest with
        | ':' :: _ =>
          match value fuel depth (colon.skip 1).skipSpaces with
          | .error e => .error e
          | .ok (item, after) =>
            let next := after.skipSpaces
            match next.rest with
            | '}' :: _ => .ok (.obj ((name, item) :: done).reverse, next.skip 1)
            | ',' :: _ => members fuel depth ((name, item) :: done) (next.skip 1).skipSpaces
            | _ => next.stop .comma
        | _ => colon.stop .colon
    | _ => here.stop .propertyName

end

end Values

/-- Reads a text that is one value, spaces around it aside. -/
def read (text : List Char) (set : Text.StandIns := .first) : Except SyntaxError Json :=
  match value set (2 * text.length + 2) 0 (Cursor.skipSpaces ⟨text, 0⟩) with
  | .error e => .error e
  | .ok (result, after) =>
    let rest := after.skipSpaces
    if rest.rest.isEmpty then .ok result else .error ⟨.extraData, rest.position⟩

end ShaderLint.Json
