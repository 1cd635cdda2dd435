import Mathlib.Tactic.Linarith
import Mathlib.Tactic.Ring
import ToolPolicy.Double.Rounding

/-! What rounding to a double gives: every quotient between the midpoints around a double is rounded
to it, and of the integers only zero is rounded to zero. -/

namespace ToolPolicy.Double

/-! ### Rounding to an integer -/

/-- A quotient lies no further from an integer than the midpoints beside it, and on a midpoint only
if the integer is even. -/
structure RoundsTo (num den m : Nat) : Prop where
  lower : 2 * (m * den) ≤ 2 * num + den
  upper : 2 * num ≤ 2 * (m * den) + den
  tie : 2 * (m * den) = 2 * num + den ∨ 2 * num = 2 * (m * den) + den → m % 2 = 0

/-- A quotient between the midpoints beside an integer is rounded to it. -/
theorem RoundsTo.roundEven_eq {num den m : Nat} (positive : 0 < den) (near : RoundsTo num den m) :
    roundEven num den = m := by
  obtain ⟨lower, upper, tie⟩ := near
  have parts : den * (num / den) + num % den = num := Nat.div_add_mod num den
  have rest := Nat.mod_lt num positive
  unfold roundEven
  dsimp only
  generalize num / den = floor at *
  generalize num % den = excess at *
  -- The integer is one of the two neighbours of the quotient.
  have notBelow : floor ≤ m := by
    by_contra below
    have step : (m + 1) * den ≤ floor * den := Nat.mul_le_mul_right den (by omega)
    linarith
  have notAbove : m ≤ floor + 1 := by
    by_contra above
    have step : (floor + 2) * den ≤ m * den := Nat.mul_le_mul_right den (by omega)
    linarith
  have product : den * floor = floor * den := Nat.mul_comm den floor
  -- Which neighbour it is depends on twice the excess; on the midpoint the even one is taken.
  obtain rfl | rfl : m = floor ∨ m = floor + 1 := by omega
  · split <;> omega
  · have next : (floor + 1) * den = floor * den + den := Nat.succ_mul floor den
    split <;> omega

/-! ### The power of two below a quotient -/

/-- Whether a quotient reaches a power may be asked of any two exponents with the same
difference. -/
theorem reachesPower_sub (num den i j : Nat) :
    reachesPower num den ((i : Int) - j) = true ↔ den * 2 ^ i ≤ num * 2 ^ j := by
  simp only [reachesPower, decide_eq_true_eq, Nat.pow_eq]
  -- Only the difference counts, so that the smaller exponent is cancelled on both sides.
  obtain ⟨k, rfl⟩ | ⟨k, rfl⟩ : (∃ k, i = j + k) ∨ ∃ k, j = i + k := by
    rcases Nat.le_total j i with le | le
    · exact .inl (Nat.exists_eq_add_of_le le)
    · exact .inr (Nat.exists_eq_add_of_le le)
  · have up : ((j + k : Nat) - (j : Int)).toNat = k := by omega
    have down : (-((j + k : Nat) - (j : Int))).toNat = 0 := by omega
    rw [up, down, Nat.pow_add, pow_zero, mul_one, Nat.mul_comm (2 ^ j), ← Nat.mul_assoc,
      Nat.mul_le_mul_right_iff (by positivity)]
  · have up : ((i : Int) - (i + k : Nat)).toNat = 0 := by omega
    have down : (-((i : Int) - (i + k : Nat))).toNat = k := by omega
    rw [up, down, Nat.pow_add, pow_zero, mul_one, Nat.mul_comm (2 ^ i), ← Nat.mul_assoc,
      Nat.mul_le_mul_right_iff (by positivity)]

/-- A quotient that reaches a power reaches the lower ones. -/
theorem reachesPower_of_le {num den : Nat} {low high : Int} (ordered : low ≤ high)
    (reached : reachesPower num den high = true) : reachesPower num den low = true := by
  obtain ⟨i, j, k, rfl, rfl⟩ : ∃ i j k : Nat, high = (i + k : Nat) - (j : Int) ∧
      low = (i : Int) - j :=
    ⟨low.toNat, (-low).toNat, (high - low).toNat, by omega, by omega⟩
  rw [reachesPower_sub] at *
  calc den * 2 ^ i ≤ den * 2 ^ (i + k) :=
        Nat.mul_le_mul_left den (Nat.pow_le_pow_right (by decide) (by omega))
    _ ≤ num * 2 ^ j := reached

/-- The powers that a positive quotient reaches are those up to the greatest one. -/
theorem reachesPower_iff_le_floorLog {num den : Nat} (num_pos : 0 < num) (den_pos : 0 < den)
    (e : Int) : reachesPower num den e = true ↔ e ≤ floorLog num den := by
  have num_low : 2 ^ num.log2 ≤ num := Nat.log2_self_le (by omega)
  have num_high : num < 2 ^ (num.log2 + 1) := Nat.lt_log2_self
  have den_low : 2 ^ den.log2 ≤ den := Nat.log2_self_le (by omega)
  have den_high : den < 2 ^ (den.log2 + 1) := Nat.lt_log2_self
  -- The bit lengths fix the greatest power up to one, and a comparison decides between the two.
  have under : reachesPower num den ((num.log2 : Int) - (den.log2 + 1 : Nat)) = true := by
    rw [reachesPower_sub, Nat.mul_comm]
    exact Nat.mul_le_mul num_low den_high.le
  have beyond : ¬reachesPower num den ((num.log2 + 1 : Nat) - (den.log2 : Int)) = true := by
    rw [reachesPower_sub, not_le, Nat.mul_comm]
    calc 2 ^ den.log2 * num ≤ den * num := Nat.mul_le_mul_right num den_low
      _ < den * 2 ^ (num.log2 + 1) := Nat.mul_lt_mul_of_pos_left num_high den_pos
  unfold floorLog
  dsimp only
  split
  case isTrue reached =>
    constructor
    · intro h
      -- A larger power that is reached would bring the one out of reach with it.
      by_contra above
      exact beyond (reachesPower_of_le (by omega) h)
    · intro below
      exact reachesPower_of_le below reached
  case isFalse missed =>
    constructor
    · intro h
      by_contra above
      exact missed (reachesPower_of_le (by omega) h)
    · intro below
      exact reachesPower_of_le (by omega) under

/-! ### Rounding to a double -/

/-- A significand and a scale that a double can have, and a quotient that lies between the midpoints
around their product; below a power of two the midpoint is nearer. -/
structure NearDouble (num den m : Nat) (scale : Int) : Prop where
  scale_ge : -1074 ≤ scale
  significand_lt : m < 2 * impliedBit
  normal : impliedBit ≤ m ∨ scale = -1074
  near : RoundsTo (num * 2 ^ (-scale).toNat) (den * 2 ^ scale.toNat) m
  narrow : m = impliedBit → -1074 < scale →
    4 * (m * (den * 2 ^ scale.toNat)) ≤ 4 * (num * 2 ^ (-scale).toNat) + den * 2 ^ scale.toNat

namespace NearDouble

variable {num den m : Nat} {scale : Int}

/-- The quotient is below the end of the doubles of its scale. -/
theorem lt_end (den_pos : 0 < den) (h : NearDouble num den m scale) :
    num * 2 ^ (-scale).toNat < den * 2 ^ (scale.toNat + 53) := by
  have upper := h.near.upper
  have small := h.significand_lt
  have positive : 0 < den * 2 ^ scale.toNat := by positivity
  have power : den * 2 ^ (scale.toNat + 53) = 2 ^ 53 * (den * 2 ^ scale.toNat) := by ring
  -- Half a unit above the greatest significand is still below the next power.
  have most : m * (den * 2 ^ scale.toNat) ≤ (2 ^ 53 - 1) * (den * 2 ^ scale.toNat) :=
    Nat.mul_le_mul_right _ (by unfold impliedBit at small; omega)
  omega

/-- A quotient that reaches the least normal significand, or has the least scale, is rounded at the
scale of the double. -/
theorem scaleAround_eq (num_pos : 0 < num) (den_pos : 0 < den) (h : NearDouble num den m scale)
    (inside : den * 2 ^ (scale.toNat + 52) ≤ num * 2 ^ (-scale).toNat ∨ scale = -1074) :
    scaleAround num den = scale := by
  have missed :
      ¬reachesPower num den ((scale.toNat + 53 : Nat) - ((-scale).toNat : Int)) = true := by
    rw [reachesPower_sub, not_le]
    exact h.lt_end den_pos
  rw [reachesPower_iff_le_floorLog num_pos den_pos] at missed
  have least := h.scale_ge
  unfold scaleAround
  -- The quotient has its first bit where the double has it, unless it is below every normal one.
  rcases inside with reached | rfl
  · rw [← reachesPower_sub, reachesPower_iff_le_floorLog num_pos den_pos] at reached
    omega
  · omega

/-- Just below a power of two the quotient is rounded at the next lower scale. -/
theorem scaleAround_below (num_pos : 0 < num) (den_pos : 0 < den) (h : NearDouble num den m scale)
    (power : m = impliedBit) (lower : -1074 < scale)
    (below : num * 2 ^ (-scale).toNat < den * 2 ^ (scale.toNat + 52)) :
    scaleAround num den = scale - 1 := by
  -- A quarter of a unit below a power of two is not yet below the next lower power.
  have reached : den * 2 ^ (scale.toNat + 51) ≤ num * 2 ^ (-scale).toNat := by
    have near := h.narrow power lower
    have split : den * 2 ^ (scale.toNat + 51) = 2 ^ 51 * (den * 2 ^ scale.toNat) := by ring
    rw [power] at near
    unfold impliedBit at near
    omega
  rw [← not_le, ← reachesPower_sub, reachesPower_iff_le_floorLog num_pos den_pos] at below
  rw [← reachesPower_sub, reachesPower_iff_le_floorLog num_pos den_pos] at reached
  unfold scaleAround
  omega

/-- At the next lower scale a quotient just below a power of two is rounded to that power. -/
theorem roundsTo_below (h : NearDouble num den m scale) (power : m = impliedBit)
    (lower : -1074 < scale) (below : num * 2 ^ (-scale).toNat < den * 2 ^ (scale.toNat + 52)) :
    RoundsTo (num * 2 ^ (-(scale - 1)).toNat) (den * 2 ^ (scale - 1).toNat) (2 * impliedBit) := by
  have near := h.narrow power lower
  have split : den * 2 ^ (scale.toNat + 52) = 2 ^ 52 * (den * 2 ^ scale.toNat) := by ring
  rw [power] at near
  unfold impliedBit at *
  rcases le_or_gt scale 0 with low | high
  · -- The quotient doubles.
    have shift : (-(scale - 1)).toNat = (-scale).toNat + 1 := by omega
    have double : num * 2 ^ (-(scale - 1)).toNat = 2 * (num * 2 ^ (-scale).toNat) := by
      rw [shift]
      ring
    have still : (scale - 1).toNat = scale.toNat := by omega
    rw [double, still]
    exact ⟨by omega, by omega, fun _ => by decide⟩
  · -- The divisor halves.
    have shift : scale.toNat = (scale - 1).toNat + 1 := by omega
    have half : den * 2 ^ scale.toNat = 2 * (den * 2 ^ (scale - 1).toNat) := by
      rw [shift]
      ring
    have still : (-(scale - 1)).toNat = (-scale).toNat := by omega
    rw [still]
    rw [half] at near split
    exact ⟨by omega, by omega, fun _ => by decide⟩

/-- A quotient between the midpoints around a double is rounded to its magnitude. -/
theorem magnitudeNear_eq (num_pos : 0 < num) (den_pos : 0 < den) (h : NearDouble num den m scale) :
    magnitudeNear num den = min ((scale + 1074).toNat * impliedBit + m) infinityBits := by
  unfold magnitudeNear
  rw [if_neg (by omega)]
  simp only [Nat.pow_eq]
  by_cases inside : den * 2 ^ (scale.toNat + 52) ≤ num * 2 ^ (-scale).toNat ∨ scale = -1074
  · rw [h.scaleAround_eq num_pos den_pos inside, h.near.roundEven_eq (by positivity)]
  · -- Only the nearer midpoint below a power of two leaves the scale of the double.
    obtain ⟨below, notLeast⟩ := not_or.mp inside
    rw [not_le] at below
    have least := h.scale_ge
    have lower : -1074 < scale := by omega
    have power : m = impliedBit := by
      have atLeast : impliedBit ≤ m := h.normal.resolve_right notLeast
      -- Any other significand of this scale is so far above the power that its midpoints are as
      -- well.
      by_contra more
      have next : (impliedBit + 1) * (den * 2 ^ scale.toNat) ≤ m * (den * 2 ^ scale.toNat) :=
        Nat.mul_le_mul_right _ (by omega)
      have near := h.near.lower
      have positive : 0 < den * 2 ^ scale.toNat := by positivity
      have split : den * 2 ^ (scale.toNat + 52) = 2 ^ 52 * (den * 2 ^ scale.toNat) := by ring
      unfold impliedBit at next
      omega
    rw [h.scaleAround_below num_pos den_pos power lower below,
      (h.roundsTo_below power lower below).roundEven_eq (by positivity), power]
    have up : (scale + 1074).toNat = (scale - 1 + 1074).toNat + 1 := by omega
    have carry (n : Nat) : n * impliedBit + 2 * impliedBit = (n + 1) * impliedBit + impliedBit := by
      ring
    rw [up, carry]

end NearDouble

/-! ### Rounded values -/

/-- The magnitude bits of a double are those that it is made of. -/
theorem magnitude_ofMagnitude (negative : Bool) {m : Nat} (small : m < signBit) :
    (ofMagnitude negative m).magnitude = m := by
  unfold magnitude ofMagnitude
  dsimp only
  rw [UInt64.toNat_ofNat']
  unfold signBit at *
  split <;> omega

/-- No magnitude up to infinity is that of a value that is not a number. -/
theorem isNaN_ofMagnitude (negative : Bool) {m : Nat} (bounded : m ≤ infinityBits) :
    (ofMagnitude negative m).isNaN = false := by
  have small : infinityBits < signBit := by decide
  simp [isNaN, magnitude_ofMagnitude negative (bounded.trans_lt small), bounded]

/-- No quotient is rounded past infinity. -/
theorem magnitudeNear_le (num den : Nat) : magnitudeNear num den ≤ infinityBits := by
  unfold magnitudeNear
  split
  · exact Nat.zero_le _
  · exact Nat.min_le_right _ _

/-- Quotients are rounded to numbers. -/
theorem isNaN_ofRatio (negative : Bool) (num den : Nat) :
    (ofRatio negative num den).isNaN = false :=
  isNaN_ofMagnitude negative (magnitudeNear_le num den)

/-- The negative of a number is a number. -/
theorem isNaN_neg {x : Double} (number : x.isNaN = false) : x.neg.isNaN = false :=
  isNaN_ofMagnitude _ (by simpa [isNaN] using number)

/-- Only zero is rounded to zero. -/
theorem isZero_ofInt_iff (n : Int) : (ofInt n).isZero = true ↔ n = 0 := by
  have small : infinityBits < signBit := by decide
  unfold isZero ofInt ofRatio
  rw [magnitude_ofMagnitude _ ((magnitudeNear_le _ _).trans_lt small), beq_iff_eq]
  constructor
  · intro vanishes
    by_contra nonzero
    have positive : 0 < n.natAbs := Int.natAbs_pos.mpr nonzero
    -- An integer other than zero is at least one, and so rounded at a scale far from the least.
    have reached : reachesPower n.natAbs 1 0 = true := by
      simpa [reachesPower] using Nat.one_le_iff_ne_zero.mpr positive.ne'
    have log : 0 ≤ floorLog n.natAbs 1 :=
      (reachesPower_iff_le_floorLog positive Nat.one_pos 0).mp reached
    have scale : -52 ≤ scaleAround n.natAbs 1 := by
      unfold scaleAround
      omega
    have steps : 0 < (scaleAround n.natAbs 1 + 1074).toNat * impliedBit :=
      Nat.mul_pos (by omega) (by decide)
    have infinite : 0 < infinityBits := by decide
    unfold magnitudeNear at vanishes
    rw [if_neg positive.ne'] at vanishes
    dsimp only at vanishes
    -- Its magnitude would be zero as a sum of which one part is positive.
    omega
  · rintro rfl
    rfl

end ToolPolicy.Double
