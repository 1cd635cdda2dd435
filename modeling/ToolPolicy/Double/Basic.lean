/-! Sixty-four bit binary floats, kept as bit patterns so that equality and every rule about them
is decided by integer arithmetic. -/

namespace ToolPolicy

/-- A double is its bit pattern: sign, eleven exponent bits and fifty-two fraction bits. -/
structure Double where
  bits : UInt64
deriving DecidableEq, Repr, Inhabited

namespace Double

/-- The sign bit. -/
def signBit : Nat := 0x8000000000000000

/-- The bit that stands before the fraction bits, which only the exponent bits imply. -/
def impliedBit : Nat := 0x10000000000000

/-- The magnitude bits of infinity; larger magnitudes are not numbers. -/
def infinityBits : Nat := 2047 * impliedBit

/-- The double with the given sign and the given magnitude bits. -/
def ofMagnitude (negative : Bool) (magnitude : Nat) : Double :=
  ⟨UInt64.ofNat ((if negative then signBit else 0) + magnitude)⟩

/-- Zero with the given sign. -/
def zero (negative : Bool) : Double := ofMagnitude negative 0

/-- Infinity with the given sign. -/
def infinity (negative : Bool) : Double := ofMagnitude negative infinityBits

/-- The quiet value that stands for every result that is not a number. -/
def nan : Double := ofMagnitude false (infinityBits + impliedBit / 2)

/-- The sign bit, which zeros and non-numbers carry too. -/
def isNegative (x : Double) : Bool := signBit ≤ x.bits.toNat

/-- All bits but the sign. -/
def magnitude (x : Double) : Nat := x.bits.toNat % signBit

def isNaN (x : Double) : Bool := infinityBits < x.magnitude

def isInfinite (x : Double) : Bool := x.magnitude == infinityBits

def isFinite (x : Double) : Bool := x.magnitude < infinityBits

/-- Both zeros count. -/
def isZero (x : Double) : Bool := x.magnitude == 0

/-- The same number with the other sign. -/
def neg (x : Double) : Double := ofMagnitude (!x.isNegative) x.magnitude

/-- The integer significand; the implicit bit is there unless the exponent bits are zero. -/
def significand (x : Double) : Nat :=
  let fraction := x.magnitude % impliedBit
  if x.magnitude < impliedBit then fraction else impliedBit + fraction

/-- A finite double is `significand * 2 ^ scale`, apart from its sign. -/
def scale (x : Double) : Int :=
  if x.magnitude < impliedBit then -1074 else (x.magnitude / impliedBit : Nat) - 1075

/-- The numerator of the size of a finite double. -/
def numerator (x : Double) : Nat := x.significand * Nat.pow 2 x.scale.toNat

/-- The denominator of the size of a finite double. -/
def denominator (x : Double) : Nat := Nat.pow 2 (-x.scale).toNat

/-- Equality of numbers: the zeros agree, and nothing equals a value that is not a number. -/
def sameNumber (x y : Double) : Bool :=
  !x.isNaN && !y.isNaN && (x == y || (x.isZero && y.isZero))

/-- Equality of mapping keys, under which values that are not numbers agree with each other. -/
def sameKey (x y : Double) : Bool := (x.isNaN && y.isNaN) || x.sameNumber y

end Double

end ToolPolicy
