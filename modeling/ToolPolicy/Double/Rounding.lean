import ToolPolicy.Double.Basic

/-! The double nearest to a quotient or to a decimal, ties going to the even significand. -/

namespace ToolPolicy.Double

/-- The quotient rounded to the nearest integer, a tie going to the even one. -/
def roundEven (num den : Nat) : Nat :=
  let floor := num / den
  let rest := num % den
  if 2 * rest > den ∨ (2 * rest = den ∧ floor % 2 = 1) then floor + 1 else floor

/-- Whether the quotient reaches two to the given power. -/
def reachesPower (num den : Nat) (e : Int) : Bool :=
  den * Nat.pow 2 e.toNat ≤ num * Nat.pow 2 (-e).toNat

/-- The greatest power of two that a positive quotient reaches. -/
def floorLog (num den : Nat) : Int :=
  let e : Int := (num.log2 : Int) - den.log2
  -- The difference of the binary lengths is right or one too large.
  if reachesPower num den e then e else e - 1

/-- The scale of the doubles around a positive quotient, never below the least one. -/
def scaleAround (num den : Nat) : Int := max (floorLog num den - 52) (-1074)

/-- The magnitude bits nearest to a quotient.

The bits of the doubles run in the order of their sizes, so a significand that rounds up to the
next power of two carries into the exponent, and whatever passes the last double is infinite. -/
def magnitudeNear (num den : Nat) : Nat :=
  if num = 0 then 0 else
    -- Below the least normal double the scale no longer falls, and fewer bits are left.
    let q := scaleAround num den
    let significand := roundEven (num * Nat.pow 2 (-q).toNat) (den * Nat.pow 2 q.toNat)
    min ((q + 1074).toNat * impliedBit + significand) infinityBits

/-- The double nearest to a quotient of natural numbers, with the given sign. -/
def ofRatio (negative : Bool) (num den : Nat) : Double :=
  ofMagnitude negative (magnitudeNear num den)

/-- The double nearest to an integer. -/
def ofInt (n : Int) : Double := ofRatio (n < 0) n.natAbs 1

/-- The number of decimal digits of a natural number; zero has one. -/
def digitCount (n : Nat) : Nat := if n < 10 then 1 else digitCount (n / 10) + 1

/-- The double nearest to `coefficient * 10 ^ exponent`, with the given sign.

A decimal that is far outside the range of the doubles is settled by its digit count alone. -/
def ofDecimal (negative : Bool) (coefficient : Nat) (exponent : Int) : Double :=
  if coefficient = 0 then zero negative
  else if 400 < (digitCount coefficient : Int) + exponent then infinity negative
  else if (digitCount coefficient : Int) + exponent < -400 then zero negative
  else
    ofRatio negative (coefficient * Nat.pow 10 exponent.toNat) (Nat.pow 10 (-exponent).toNat)

/-- The rounded product of the sizes of two finite doubles. -/
def timesSize (x y : Double) : Double :=
  ofRatio false (x.numerator * y.numerator) (x.denominator * y.denominator)

/-- The rounded quotient of the sizes of two finite doubles. -/
def overSize (x y : Double) : Double :=
  ofRatio false (x.numerator * y.denominator) (x.denominator * y.numerator)

end ToolPolicy.Double
