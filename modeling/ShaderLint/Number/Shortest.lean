/-
The shortest decimal text of a number.

For one digit, two, and so on, the two neighbours of the number among the decimals of that many
digits are tried; the first that rounds back to the number is the answer, the nearer one where both
do. Seventeen digits always suffice. The digits are then set out positionally while the decimal
point falls within the first sixteen digits or at most three zeros before them, and with an
exponent of at least two digits otherwise. A text of a finite number always shows that it is no
integer literal, by a point or an exponent.
-/
import ShaderLint.Number.Binary64

set_option autoImplicit false

namespace ShaderLint.Binary64

/-! ## Digits -/

/-- A decimal: `digits * 10 ^ tens`. -/
structure Decimal where
  digits : Nat
  tens : Int

/-- Where the decimal point of a positive quotient stands: the `p` for which the quotient is less
than `10 ^ p` and not less than `10 ^ (p - 1)`. -/
def pointPosition (n d : Nat) : Int :=
  if d ≤ n then (Nat.toDigits 10 (n / d)).length
  else
    -- the quotient is at least `10 ^ (-k)`, and reaches the power above only if it is one
    let k := (Nat.toDigits 10 (d / n)).length
    if n * Nat.pow 10 (k - 1) = d then 2 - (k : Int) else 1 - (k : Int)

/-- The decimal of `count` digits that rounds to `x`, the nearer one if there are two, where `x` is
the quotient `n / d` and `point` is the place of its decimal point. -/
def decimal? (x : Binary64) (n d : Nat) (point : Int) (count : Nat) : Option Decimal :=
  let unit := point - count
  let (n, d) :=
    if 0 ≤ unit then (n, d * Nat.pow 10 unit.toNat) else (n * Nat.pow 10 (-unit).toNat, d)
  let low := n / d
  -- where both are equally near, the even one is taken
  let upperNearer := decide (d < 2 * (n % d)) || (2 * (n % d) == d && low % 2 == 1)
  let readsBack (m : Nat) : Bool := ofDecimal false m unit == x
  if readsBack low && !(upperNearer && readsBack (low + 1)) then some ⟨low, unit⟩
  else if readsBack (low + 1) then some ⟨low + 1, unit⟩
  else none

/-- The decimal of fewest digits that rounds to a positive number. -/
def shortest (significand : Nat) (exponent : Int) : Decimal :=
  let (n, d) := ratio significand exponent
  let x := finite false significand exponent
  let point := pointPosition n d
  ((List.range' 1 17).findSome? (decimal? x n d point)).getD ⟨0, 0⟩

/-! ## Layout -/

/-- An exponent with its sign and at least two digits. -/
def exponentText (e : Int) : List Char :=
  let digits := Nat.toDigits 10 e.natAbs
  'e' :: (if e < 0 then '-' else '+') :: (if digits.length < 2 then '0' :: digits else digits)

/-- Digits with the decimal point after the first `point` of them. -/
def layout (digits : List Char) (point : Int) : List Char :=
  if point ≤ -4 ∨ 16 < point then
    digits.take 1 ++ (if digits.length ≤ 1 then [] else '.' :: digits.drop 1)
      ++ exponentText (point - 1)
  else if point ≤ 0 then ['0', '.'] ++ List.replicate (-point).toNat '0' ++ digits
  else
    let whole := point.toNat
    if digits.length ≤ whole then
      digits ++ List.replicate (whole - digits.length) '0' ++ ['.', '0']
    else digits.take whole ++ '.' :: digits.drop whole

/-- The text of a positive number. -/
def magnitudeText (significand : Nat) (exponent : Int) : List Char :=
  let decimal := shortest significand exponent
  let digits := Nat.toDigits 10 decimal.digits
  layout (digits.reverse.dropWhile (· == '0')).reverse (decimal.tens + digits.length)

/-- The words for what is not a finite number. -/
structure SpecialWords where
  infinity : String
  notANumber : String

/-- The shortest text that reads back as the number. -/
def text (words : SpecialWords) (x : Binary64) : String :=
  let sign (negative : Bool) : String := if negative then "-" else ""
  match x with
  | .finite negative significand exponent =>
    sign negative ++
      (if significand = 0 then "0.0" else String.ofList (magnitudeText significand exponent))
  | .infinite negative => sign negative ++ words.infinity
  | .notANumber => words.notANumber

end ShaderLint.Binary64
