/-
Halves of surrogate pairs.

Over a wire a character that takes more than sixteen bits may come as a pair of numbers, each of
which can also come alone. Such a half is no character, so a text with one in it is a list of
points, each a character or a half.

What becomes of a half is found out with stand-ins. There are two sets of them, characters for
private use that differ in every half, and like a half none of them is a blank or a part of a word;
so a text is taken apart in the same way whichever set is put into it, and what is made of it with
the one and with the other differs exactly where a half has got to.
-/

set_option autoImplicit false

namespace ShaderLint.Text

/-! ## Halves -/

/-- Whether a number is the first half of a pair that stands for one character. -/
def isHighHalf (n : Nat) : Bool := 0xD800 ≤ n && n < 0xDC00

/-- Whether a number is the second half of such a pair. -/
def isLowHalf (n : Nat) : Bool := 0xDC00 ≤ n && n < 0xE000

/-- The character that a pair stands for. -/
def charOfPair (high low : Nat) : Char :=
  Char.ofNat (0x10000 + (high - 0xD800) * 0x400 + (low - 0xDC00))

/-- A half of a pair, by how far it lies behind the first of them all. -/
abbrev Half := Fin 0x800

/-- The half of a number, if it is one. -/
def Half.ofNat? (n : Nat) : Option Half :=
  if h : 0xD800 ≤ n ∧ n < 0xE000 then some ⟨n - 0xD800, by omega⟩ else none

/-- What a text from a wire is made of. -/
inductive Point where
  | char (c : Char)
  | half (h : Half)
  deriving DecidableEq, Repr

/-- The points of a text without halves. -/
def whole (text : String) : List Point := text.toList.map .char

/-! ## Stand-ins -/

/-- A set of stand-ins, one for each half. -/
inductive StandIns where
  | first
  | second
  deriving DecidableEq, Repr

namespace StandIns

/-- The number of the first stand-in of a set. -/
def start : StandIns → Nat
  | .first => 0xE000
  | .second => 0xE800

/-- The character that stands in for a half. -/
def forHalf (set : StandIns) (h : Half) : Char := Char.ofNat (set.start + h)

/-- The character of a number, which may be the number of a half. -/
def charOf (set : StandIns) (n : Nat) : Char :=
  match Half.ofNat? n with
  | some h => set.forHalf h
  | none => Char.ofNat n

/-- The character at a point, or the one that stands in for it. -/
def forPoint (set : StandIns) : Point → Char
  | .char c => c
  | .half h => set.forHalf h

/-- A text with a stand-in in the place of each half. -/
def fill (set : StandIns) (points : List Point) : String :=
  String.ofList (points.map set.forPoint)

end StandIns

/-- The point at a place, given the characters there with either set. -/
def Point.ofPair (a b : Char) : Point :=
  if a = b then .char a else .half (Fin.ofNat 0x800 (a.toNat - StandIns.first.start))

/-- The points of a text, given what it is with either set. -/
def pointsOf (first second : String) : List Point :=
  List.zipWith Point.ofPair first.toList second.toList

end ShaderLint.Text
