/-
Numerals: numbers that are written out in a text.

An integer is a run of digits with single low lines between them. A sign may come first, and a
point and zeros may follow. Zeros in front say nothing and are passed over before anything else is
looked at, together with any low lines among them; so they may stand before a minus, low lines
among them may be doubled, and they do not count towards the greatest length. Once they are passed
over there may be no more of them: those before a minus rule out others after it.

A number that need not be whole has a grammar of its own, in which low lines have no place. A text
that does not fit it is tried once more without its low lines, but then with the white space around
it, which such a text may not have.
-/
import ShaderLint.Json.Reader
import ShaderLint.Text.Blank

set_option autoImplicit false

namespace ShaderLint.Numeral

/-! ## Preparing a text -/

/-- The white space that may surround a numeral: the blanks, but not the information
separators. -/
def isSurrounding (c : Char) : Bool := Text.isBlank c && !(28 ≤ c.toNat && c.toNat ≤ 31)

/-- A numeral without the white space around it. -/
def bare (cs : List Char) : List Char :=
  ((cs.dropWhile isSurrounding).reverse.dropWhile isSurrounding).reverse

/-- The low lines of a numeral left out, if each stands between two other characters. -/
def withoutLowLines? (cs : List Char) : Option (List Char) :=
  if cs.head? == some '_' || cs.getLast? == some '_' || (cs.zip cs.tail).contains ('_', '_') then
    none
  else some (cs.filter (· != '_'))

/-! ## Integers -/

/-- Whether digits begin with a zero that says nothing. -/
def isPadded : List Char → Bool
  | '0' :: c :: _ => c.isDigit || c == '_'
  | _ => false

/-- What follows zeros, and low lines among them, given the last of those seen. It stays itself if
nothing or a point follows. -/
def afterZeros? (last : Char) : List Char → Option (List Char)
  | [] => some [last]
  | c :: rest =>
    if c = '0' ∨ c = '_' then afterZeros? c rest
    else if c = '.' then
      -- the integer part may not be empty, so the character before the point stays
      some (last :: c :: rest)
    else if c.isDigit ∨ (c = '-' ∧ !isPadded rest) then some (c :: rest)
    else none

/-- An integer without the zeros in front of it. -/
def withoutZeros? : List Char → Option (List Char)
  | [] => none
  | c :: rest =>
    if c = '0' then afterZeros? c rest
    else if c.isDigit ∨ c = '-' then some (c :: rest)
    else none

/-- An integer without the plus in front of it, which no minus may follow. -/
def withoutPlus? : List Char → Option (List Char)
  | '+' :: rest => if rest.head? = some '-' then none else some rest
  | cs => some cs

/-- Whether nothing follows the integer part, or a point and zeros. -/
def noFraction : List Char → Bool
  | [] => true
  | c :: zeros => c == '.' && !zeros.isEmpty && zeros.all (· == '0')

/-- What a text may be as an integer. -/
inductive Integer where
  | none
  | tooLong
  | value (n : Int)

/-- Reads an integer that has no zeros in front. It may have only so many digits, a minus counting
as one of them; whatever else may be wrong with it is found after that. -/
def integerFrom (cs : List Char) : Integer :=
  let (negative, unsigned) := match cs with
    | '-' :: rest => (true, rest)
    | _ => (false, cs)
  let isDigitOrLine (c : Char) : Bool := c.isDigit || c == '_'
  let whole := unsigned.takeWhile isDigitOrLine
  let digits? := withoutLowLines? whole
  -- low lines do not count, unless they are misplaced: then the first of them ends the count
  let length := ((digits?.getD whole).takeWhile Char.isDigit).length
  if Json.digitLimit < length + negative.toNat then .tooLong
  else match digits? with
    | .none | some [] => .none
    | some digits =>
      if !noFraction (unsigned.dropWhile isDigitOrLine) then .none
      else
        let n := Int.ofNat (Json.digitsValue digits)
        .value (if negative then -n else n)

def integer (s : String) : Integer :=
  match (withoutPlus? (bare s.toList)).bind withoutZeros? with
  | some cs => integerFrom cs
  | .none => .none

/-! ## Numbers that need not be whole -/

/-- Whether the numeral is negative, and what follows the sign, which may be left out. -/
def sign (cs : List Char) : Bool × List Char :=
  match cs with
  | '-' :: rest => (true, rest)
  | '+' :: rest => (false, rest)
  | _ => (false, cs)

/-- Reads a number without a sign: digits with a point before, between or after them, and perhaps
an exponent. -/
def unsignedNumber? (negative : Bool) (cs : List Char) : Option Binary64 := do
  let whole := cs.takeWhile Char.isDigit
  let afterWhole := cs.drop whole.length
  let fraction := Json.fractionPart afterWhole
  let afterFraction :=
    if afterWhole.head? == some '.' then afterWhole.drop (1 + fraction.length) else afterWhole
  guard !(whole ++ fraction).isEmpty
  let (tens, length) ←
    if afterFraction.isEmpty then some (0, 0) else Json.exponentPart? afterFraction
  guard (afterFraction.drop length).isEmpty
  return .ofDecimal negative (Json.digitsValue (whole ++ fraction)) (tens - fraction.length)

/-- Reads a number, or one of the words for infinity and for no number at all. -/
def plainNumber? (cs : List Char) : Option Binary64 :=
  let (negative, unsigned) := sign cs
  let word := String.ofList (unsigned.map Char.toLower)
  if word = "inf" ∨ word = "infinity" then some (.infinite negative)
  else if word = "nan" then some .notANumber
  else unsignedNumber? negative unsigned

/-- Reads a number with white space around it, or with low lines in it. -/
def number? (s : String) : Option Binary64 :=
  (plainNumber? (bare s.toList)).or ((withoutLowLines? s.toList).bind plainNumber?)

end ShaderLint.Numeral
