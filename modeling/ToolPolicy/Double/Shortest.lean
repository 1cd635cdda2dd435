import ToolPolicy.Double.Rounding

/-! The shortest decimal that reads back as a double, and of those the nearest one.

The reals that round to a double form an interval. The coarsest decimal grid that has a point in
the interval gives the fewest digits, and one of the value's two neighbours on that grid is such a
point. -/

namespace ToolPolicy.Double

/-- A decimal `coefficient * 10 ^ exponent`. -/
structure Decimal where
  coefficient : Nat
  exponent : Int
deriving DecidableEq, Repr

/-- Where a value goes that lies exactly between two decimals of the shortest length. -/
inductive Tie where
  | up
  | even
deriving DecidableEq, Repr

/-- The reals that round to a double, as quotients over a common denominator. -/
structure Interval where
  low : Nat
  value : Nat
  high : Nat
  denominator : Nat
  closed : Bool
deriving Repr

/-- The interval of a finite double that is not zero.

Its ends lie halfway to the neighbours; below a power of two the neighbour is nearer. The ends
belong to it when the significand is even. -/
def interval (x : Double) : Interval :=
  let m := x.significand
  let up := Nat.pow 2 x.scale.toNat
  -- At the least scale the doubles below are as far apart as those above.
  let narrow := m = impliedBit ∧ -1074 < x.scale
  { low := (4 * m - (if narrow then 1 else 2)) * up
    value := 4 * m * up
    high := (4 * m + 2) * up
    denominator := 4 * Nat.pow 2 (-x.scale).toNat
    closed := m % 2 = 0 }

namespace Interval

/-- Whether a decimal lies in the interval. -/
def holds (i : Interval) (d : Decimal) : Bool :=
  let p := d.coefficient * Nat.pow 10 d.exponent.toNat * i.denominator
  let s := Nat.pow 10 (-d.exponent).toNat
  if i.closed then i.low * s ≤ p ∧ p ≤ i.high * s else i.low * s < p ∧ p < i.high * s

/-- The multiple of a power of ten just below the value. -/
def below (i : Interval) (exponent : Int) : Decimal :=
  ⟨i.value * Nat.pow 10 (-exponent).toNat / (i.denominator * Nat.pow 10 exponent.toNat), exponent⟩

/-- Whether the upper of the two neighbours on a grid is to be preferred. -/
def prefersAbove (i : Interval) (tie : Tie) (d : Decimal) : Bool :=
  let doubled := 2 * i.value * Nat.pow 10 (-d.exponent).toNat
  let middle := (2 * d.coefficient + 1) * Nat.pow 10 d.exponent.toNat * i.denominator
  middle < doubled || (middle == doubled && (tie == .up || d.coefficient % 2 == 1))

/-- The point of a grid that lies in the interval, the better one where there are two. -/
def pointOn (i : Interval) (tie : Tie) (exponent : Int) : Option Decimal :=
  let lower := i.below exponent
  let upper : Decimal := ⟨lower.coefficient + 1, exponent⟩
  -- Zero is no candidate: it would read back as zero.
  match i.holds lower && lower.coefficient != 0, i.holds upper with
  | true, true => some (if i.prefersAbove tie lower then upper else lower)
  | true, false => some lower
  | false, true => some upper
  | false, false => none

/-- The first hit on ever finer grids. -/
def search (i : Interval) (tie : Tie) : Nat → Int → Option Decimal
  | 0, _ => none
  | steps + 1, exponent =>
    match i.pointOn tie exponent with
    | some d => some d
    -- A finer grid has all points of the coarser one, so the first hit has the fewest digits.
    | none => i.search tie steps (exponent - 1)

end Interval

/-- A power of ten above the size of the double. -/
def decimalBound (x : Double) : Int :=
  ((x.significand.log2 : Int) + 1 + x.scale) * 30103 / 100000 + 1

/-- The exact decimal value of a finite double. -/
def exactDecimal (x : Double) : Decimal :=
  ⟨x.numerator * Nat.pow 5 (-x.scale).toNat, -((-x.scale).toNat : Int)⟩

/-- The shortest decimal that reads back as the double; zero is itself.

Twenty grids below the size of the double are enough for seventeen digits. -/
def shortest (tie : Tie) (x : Double) : Decimal :=
  if x.isZero then ⟨0, 0⟩
  else (x.interval.search tie 20 x.decimalBound).getD x.exactDecimal

end ToolPolicy.Double
