/-
Numbers in the 64-bit binary format.

A finite number is a significand below 2^53 times a power of two between 2^-1074 and 2^971. A
decimal is rounded to the nearest such number in exact integer arithmetic, a tie going to the even
significand; what lies beyond the largest becomes infinite. The significand has its top bit set
unless the exponent is the smallest one, so equal numbers other than the two zeros are equal terms.
-/

set_option autoImplicit false

namespace ShaderLint

/-- A number in the 64-bit binary format. -/
inductive Binary64 where
  /-- Plus or minus `significand * 2 ^ exponent`. -/
  | finite (negative : Bool) (significand : Nat) (exponent : Int)
  | infinite (negative : Bool)
  | notANumber
  deriving DecidableEq, Repr

namespace Binary64

/-- Number of bits of the significand. -/
def precision : Nat := 53

/-- The smallest exponent. -/
def minExponent : Int := -1074

/-- The largest exponent. -/
def maxExponent : Int := 971

/-- `num / den * 2 ^ (-e)` as a quotient of natural numbers. -/
def scaled (num den : Nat) (e : Int) : Nat × Nat :=
  if 0 ≤ e then (num, den <<< e.toNat) else (num <<< (-e).toNat, den)

/-- What every significand is below: `2 ^ precision`. -/
def significandBound : Nat := 1 <<< precision

/-- The smallest exponent from `e` on, within `tries` steps, at which the quotient is below
the bound of significands. -/
def fitExponent (num den : Nat) (e : Int) : (tries : Nat) → Int
  | 0 => e
  | tries + 1 =>
    let (n, d) := scaled num den e
    if n / d < significandBound then e else fitExponent num den (e + 1) tries

/-- Quotient rounded to the nearest integer, a tie to the even one. -/
def roundQuotient (n d : Nat) : Nat :=
  let q := n / d
  let twice := 2 * (n % d)
  if twice < d then q else if d < twice then q + 1 else if q % 2 = 0 then q else q + 1

/-- The number nearest to `num / den`, with a sign. -/
def ofRatio (negative : Bool) (num den : Nat) : Binary64 :=
  if num = 0 then .finite negative 0 0
  else
    let start : Int := Nat.log2 num - Nat.log2 den - precision
    let e := fitExponent num den (max start minExponent) 3
    let (n, d) := scaled num den e
    let m := roundQuotient n d
    let (m, e) := if m = significandBound then (significandBound / 2, e + 1) else (m, e)
    if m = 0 then .finite negative 0 0
    else if maxExponent < e then .infinite negative
    else .finite negative m e

/-- The number nearest to `digits * 10 ^ tens`. Far beyond either end of the range the answer is
known without forming the power. -/
def ofDecimal (negative : Bool) (digits : Nat) (tens : Int) : Binary64 :=
  if digits = 0 then .finite negative 0 0
  else
    let magnitude := tens + (Nat.toDigits 10 digits).length
    if 310 < magnitude then .infinite negative
    else if magnitude < -330 then .finite negative 0 0
    else if 0 ≤ tens then ofRatio negative (digits * Nat.pow 10 tens.toNat) 1
    else ofRatio negative digits (Nat.pow 10 (-tens).toNat)

/-- The number nearest to an integer. -/
def ofInt (n : Int) : Binary64 := ofRatio (n < 0) n.natAbs 1

/-- The value of a finite number without its sign, as a quotient. -/
def ratio (significand : Nat) (exponent : Int) : Nat × Nat :=
  if 0 ≤ exponent then (significand <<< exponent.toNat, 1)
  else (significand, 1 <<< (-exponent).toNat)

/-- The value, if it is an integer. -/
def toInt? : Binary64 → Option Int
  | .finite negative significand exponent =>
    let (n, d) := ratio significand exponent
    if n % d = 0 then some (if negative then -Int.ofNat (n / d) else Int.ofNat (n / d)) else none
  | .infinite _ | .notANumber => none

/-- Whether the number is neither infinite nor no number at all. -/
def isFinite : Binary64 → Bool
  | .finite .. => true
  | .infinite _ | .notANumber => false

end Binary64

end ShaderLint
