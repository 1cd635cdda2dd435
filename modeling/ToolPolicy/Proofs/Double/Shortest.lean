import ToolPolicy.Double.Shortest
import ToolPolicy.Proofs.Double.Rounding

/-! The shortest decimal of a double reads back as that double, and so does every other decimal of
its interval. -/

namespace ToolPolicy.Double

/-! ### The parts of a double -/

/-- A double is made of its sign and its magnitude. -/
theorem ofMagnitude_isNegative (x : Double) : ofMagnitude x.isNegative x.magnitude = x := by
  obtain ⟨bits⟩ := x
  have range := bits.toNat_lt
  unfold ofMagnitude isNegative magnitude
  -- The sign is the highest bit, and the magnitude is made of those below it.
  have whole : (if decide (signBit ≤ bits.toNat) = true then signBit else 0) +
      bits.toNat % signBit = bits.toNat := by
    unfold signBit
    split
    · rename_i negative
      simp only [decide_eq_true_eq] at negative
      omega
    · rename_i positive
      simp only [decide_eq_true_eq] at positive
      omega
  rw [whole, UInt64.ofNat_toNat]

/-- The magnitude of a double is made of its scale and its significand. -/
theorem magnitude_eq (x : Double) :
    x.magnitude = (x.scale + 1074).toNat * impliedBit + x.significand := by
  unfold scale significand impliedBit
  dsimp only
  -- The exponent field is the scale counted from the least one, apart from the fields zero and one,
  -- which share that scale.
  split
  · omega
  · omega

/-- A significand has at most one bit more than the fraction. -/
theorem significand_lt (x : Double) : x.significand < 2 * impliedBit := by
  unfold significand impliedBit
  dsimp only
  split <;> omega

/-- No scale is below the least one. -/
theorem scale_ge (x : Double) : -1074 ≤ x.scale := by
  unfold scale impliedBit
  split <;> omega

/-- The scale of a finite double is below that of infinity. -/
theorem scale_le {x : Double} (finite : x.isFinite = true) : x.scale ≤ 971 := by
  unfold isFinite infinityBits impliedBit at finite
  simp only [decide_eq_true_eq] at finite
  unfold scale impliedBit
  split <;> omega

/-- Only doubles of the least scale lack the implied bit. -/
theorem impliedBit_le_significand (x : Double) : impliedBit ≤ x.significand ∨ x.scale = -1074 := by
  unfold significand scale impliedBit
  dsimp only
  split
  · exact .inr rfl
  · exact .inl (by omega)

/-- Only zeros have no significand. -/
theorem significand_pos {x : Double} (nonzero : x.isZero = false) : 0 < x.significand := by
  unfold isZero at nonzero
  rw [beq_eq_false_iff_ne] at nonzero
  unfold significand impliedBit
  dsimp only
  split <;> omega

/-! ### Decimals of the interval -/

/-- A decimal as a quotient. -/
def Decimal.numerator (d : Decimal) : Nat := d.coefficient * 10 ^ d.exponent.toNat

/-- The divisor of a decimal as a quotient. -/
def Decimal.denominator (d : Decimal) : Nat := 10 ^ (-d.exponent).toNat

theorem Decimal.denominator_pos (d : Decimal) : 0 < d.denominator :=
  Nat.pow_pos (by decide)

/-- An interval holds a decimal by comparing products. -/
theorem Interval.holds_eq (i : Interval) (d : Decimal) :
    i.holds d = if i.closed then
        decide (i.low * d.denominator ≤ d.numerator * i.denominator ∧
          d.numerator * i.denominator ≤ i.high * d.denominator)
      else decide (i.low * d.denominator < d.numerator * i.denominator ∧
          d.numerator * i.denominator < i.high * d.denominator) :=
  rfl

/-- Whether an interval holds a decimal depends on its value alone. -/
theorem Interval.holds_of_scaled {i : Interval} {d e : Decimal} {factor : Nat}
    (positive : 0 < factor) (numerator : e.numerator = factor * d.numerator)
    (denominator : e.denominator = factor * d.denominator) : i.holds e = i.holds d := by
  have low : i.low * (factor * d.denominator) = factor * (i.low * d.denominator) := by ring
  have high : i.high * (factor * d.denominator) = factor * (i.high * d.denominator) := by ring
  rw [holds_eq, holds_eq, numerator, denominator, low, high, Nat.mul_assoc]
  simp only [Nat.mul_le_mul_left_iff positive, Nat.mul_lt_mul_left positive]

/-- What an interval holds lies between its ends, and not on them if it is open. -/
theorem Interval.bounds_of_holds {i : Interval} {d : Decimal} (held : i.holds d = true) :
    i.low * d.denominator ≤ d.numerator * i.denominator ∧
      d.numerator * i.denominator ≤ i.high * d.denominator ∧
      (i.closed = false → i.low * d.denominator ≠ d.numerator * i.denominator ∧
        d.numerator * i.denominator ≠ i.high * d.denominator) := by
  rw [holds_eq] at held
  split at held
  · rename_i closed
    rw [decide_eq_true_eq] at held
    exact ⟨held.1, held.2, by simp [closed]⟩
  · rw [decide_eq_true_eq] at held
    exact ⟨held.1.le, held.2.le, fun _ => ⟨held.1.ne, held.2.ne⟩⟩

/-- A decimal of the interval lies between the midpoints around the double. -/
theorem nearDouble_of_holds {x : Double} {d : Decimal} (nonzero : x.isZero = false)
    (held : x.interval.holds d = true) :
    NearDouble d.numerator d.denominator x.significand x.scale := by
  obtain ⟨lower, upper, apart⟩ := Interval.bounds_of_holds held
  -- The ends and the point, as multiples of one quotient of the scale.
  have low : x.interval.low * d.denominator =
      4 * (x.significand * (d.denominator * 2 ^ x.scale.toNat)) -
        (if x.significand = impliedBit ∧ -1074 < x.scale then 1 else 2) *
          (d.denominator * 2 ^ x.scale.toNat) := by
    simp only [interval, Nat.pow_eq, Nat.sub_mul]
    congr 1 <;> ring
  have high : x.interval.high * d.denominator =
      4 * (x.significand * (d.denominator * 2 ^ x.scale.toNat)) +
        2 * (d.denominator * 2 ^ x.scale.toNat) := by
    simp only [interval, Nat.pow_eq]
    ring
  have point : d.numerator * x.interval.denominator =
      4 * (d.numerator * 2 ^ (-x.scale).toNat) := by
    simp only [interval, Nat.pow_eq]
    ring
  have closed : x.interval.closed = decide (x.significand % 2 = 0) := rfl
  -- A double that is not zero has a significand of at least one, so that no end is cut off at zero.
  have size : d.denominator * 2 ^ x.scale.toNat ≤
      x.significand * (d.denominator * 2 ^ x.scale.toNat) :=
    Nat.le_mul_of_pos_left _ (significand_pos nonzero)
  rw [low, point] at lower
  rw [high, point] at upper
  rw [low, high, point, closed, decide_eq_false_iff_not] at apart
  refine ⟨x.scale_ge, x.significand_lt, x.impliedBit_le_significand, ⟨?_, ?_, ?_⟩, ?_⟩ <;>
    generalize d.numerator * 2 ^ (-x.scale).toNat = value at * <;>
    generalize x.significand * (d.denominator * 2 ^ x.scale.toNat) = middle at * <;>
    generalize d.denominator * 2 ^ x.scale.toNat = unit at *
  · split at lower <;> omega
  · omega
  · intro midpoint
    by_contra odd
    -- The significand of a power of two is even, so the lower midpoint is not the nearer one.
    have wide : ¬(x.significand = impliedBit ∧ -1074 < x.scale) := by
      rintro ⟨power, -⟩
      exact odd (by rw [power]; decide)
    obtain ⟨notLow, notHigh⟩ := apart odd
    rw [if_neg wide] at lower notLow
    omega
  · intro power lower'
    rw [if_pos ⟨power, lower'⟩] at lower
    omega

/-! ### Reading decimals of the interval -/

/-- A number has as many digits as the powers of ten below it. -/
theorem pow_le_of_digitCount {n : Nat} (positive : 0 < n) : 10 ^ (digitCount n - 1) ≤ n := by
  induction n using Nat.strongRecOn with
  | _ n ih =>
    rw [digitCount]
    split
    · exact positive
    · have shorter := ih (n / 10) (by omega) (by omega)
      have some : 1 ≤ digitCount (n / 10) := by
        rw [digitCount]
        split <;> omega
      obtain ⟨k, count⟩ := Nat.exists_eq_add_of_le some
      rw [count] at shorter ⊢
      simp only [Nat.add_sub_cancel, Nat.add_sub_cancel_left] at shorter ⊢
      -- One digit is left out of the quotient, which has a tenth of the value.
      calc 10 ^ (1 + k) = 10 * 10 ^ k := by ring
        _ ≤ 10 * (n / 10) := Nat.mul_le_mul_left 10 shorter
        _ ≤ n := Nat.mul_div_le n 10

/-- A number is below the power of ten of its digits. -/
theorem lt_pow_digitCount (n : Nat) : n < 10 ^ digitCount n := by
  induction n using Nat.strongRecOn with
  | _ n ih =>
    rw [digitCount]
    split
    · omega
    -- The quotient by ten has one digit less.
    · have shorter := ih (n / 10) (by omega)
      rw [Nat.pow_succ]
      omega

/-- Forty-three bits are less than sixteen digits. -/
theorem two_pow_le {k j n : Nat} (small : k ≤ 43 * n) (large : 16 * n ≤ j) : 2 ^ k ≤ 10 ^ j :=
  calc 2 ^ k ≤ 2 ^ (43 * n) := Nat.pow_le_pow_right (by decide) small
    _ = (2 ^ 43) ^ n := Nat.pow_mul 2 43 n
    _ ≤ (10 ^ 16) ^ n := Nat.pow_le_pow_left (by norm_num) n
    _ = 10 ^ (16 * n) := (Nat.pow_mul 10 16 n).symm
    _ ≤ 10 ^ j := Nat.pow_le_pow_right (by decide) large

/-- A decimal near a finite double is not too large for its digits to be looked at. -/
theorem digitCount_le_of_near {x : Double} {d : Decimal} (finite : x.isFinite = true)
    (positive : 0 < d.coefficient)
    (near : NearDouble d.numerator d.denominator x.significand x.scale) :
    (digitCount d.coefficient : Int) + d.exponent ≤ 400 := by
  -- Every finite double is below 10 ^ 400, which such a decimal would reach.
  by_contra large
  have most := near.lt_end d.denominator_pos
  have digits := pow_le_of_digitCount positive
  have exponents : (-d.exponent).toNat + 400 ≤ digitCount d.coefficient - 1 + d.exponent.toNat := by
    have some : 1 ≤ digitCount d.coefficient := by
      rw [digitCount]
      split <;> omega
    omega
  -- A decimal of so many digits is at least the power of ten with one digit less.
  have reached : d.denominator * 10 ^ 400 ≤ d.numerator := by
    calc d.denominator * 10 ^ 400 = 10 ^ ((-d.exponent).toNat + 400) := by
          rw [Nat.pow_add]
          rfl
      _ ≤ 10 ^ (digitCount d.coefficient - 1 + d.exponent.toNat) :=
          Nat.pow_le_pow_right (by decide) exponents
      _ ≤ d.numerator := by
          rw [Nat.pow_add]
          exact Nat.mul_le_mul_right _ digits
  have scale : x.scale.toNat + 53 ≤ 1075 := by
    have := scale_le finite
    omega
  have beyond : d.denominator * 10 ^ 400 < d.denominator * 10 ^ 400 := by
    calc d.denominator * 10 ^ 400 ≤ d.numerator := reached
      _ ≤ d.numerator * 2 ^ (-x.scale).toNat := Nat.le_mul_of_pos_right _ (by positivity)
      _ < d.denominator * 2 ^ (x.scale.toNat + 53) := most
      _ ≤ d.denominator * 10 ^ 400 := Nat.mul_le_mul_left _ (two_pow_le (n := 25) scale (by omega))
  exact lt_irrefl _ beyond

/-- A decimal near a double that is not zero is not too small for its digits to be looked at. -/
theorem le_digitCount_of_near {x : Double} {d : Decimal} (nonzero : x.isZero = false)
    (near : NearDouble d.numerator d.denominator x.significand x.scale) :
    -400 ≤ (digitCount d.coefficient : Int) + d.exponent := by
  -- The smallest double that is not zero is above 10 ^ -400, which such a decimal would not reach.
  by_contra small
  have digits := lt_pow_digitCount d.coefficient
  have least := near.near.lower
  have positive : d.denominator * 2 ^ x.scale.toNat ≤
      x.significand * (d.denominator * 2 ^ x.scale.toNat) :=
    Nat.le_mul_of_pos_left _ (significand_pos nonzero)
  have exponents : digitCount d.coefficient + d.exponent.toNat + 400 ≤ (-d.exponent).toNat := by
    omega
  -- A decimal of so few digits is below the power of ten with as many.
  have reached : d.numerator * 10 ^ 400 < d.denominator := by
    calc d.numerator * 10 ^ 400
        < 10 ^ digitCount d.coefficient * 10 ^ d.exponent.toNat * 10 ^ 400 := by
          unfold Decimal.numerator
          gcongr
      _ = 10 ^ (digitCount d.coefficient + d.exponent.toNat + 400) := by
          rw [Nat.pow_add, Nat.pow_add]
      _ ≤ d.denominator := Nat.pow_le_pow_right (by decide) exponents
  have scale : (-x.scale).toNat + 1 ≤ 1075 := by
    have := x.scale_ge
    omega
  have beyond : d.numerator * 10 ^ 400 < d.numerator * 10 ^ 400 := by
    calc d.numerator * 10 ^ 400 < d.denominator := reached
      _ ≤ d.denominator * 2 ^ x.scale.toNat := Nat.le_mul_of_pos_right _ (by positivity)
      _ ≤ 2 * (d.numerator * 2 ^ (-x.scale).toNat) := by omega
      _ = d.numerator * 2 ^ ((-x.scale).toNat + 1) := by ring
      _ ≤ d.numerator * 10 ^ 400 := Nat.mul_le_mul_left _ (two_pow_le (n := 25) scale (by omega))
  exact lt_irrefl _ beyond

/-- Every decimal of the interval of a double reads back as the size of that double. -/
theorem ofDecimal_of_holds {x : Double} {d : Decimal} (finite : x.isFinite = true)
    (nonzero : x.isZero = false) (held : x.interval.holds d = true) (negative : Bool) :
    ofDecimal negative d.coefficient d.exponent = ofMagnitude negative x.magnitude := by
  have near := nearDouble_of_holds nonzero held
  -- Zero would be further away than the midpoint, which is at most half a unit from the double.
  have positive : 0 < d.coefficient := by
    by_contra none
    have least := near.near.lower
    have value : d.numerator = 0 := by
      unfold Decimal.numerator
      rw [Nat.eq_zero_of_not_pos none, Nat.zero_mul]
    have unit : 0 < d.denominator * 2 ^ x.scale.toNat :=
      Nat.mul_pos d.denominator_pos (by positivity)
    have size : d.denominator * 2 ^ x.scale.toNat ≤
        x.significand * (d.denominator * 2 ^ x.scale.toNat) :=
      Nat.le_mul_of_pos_left _ (significand_pos nonzero)
    rw [value, Nat.zero_mul] at least
    omega
  have numerator_pos : 0 < d.numerator := Nat.mul_pos positive (by positivity)
  have most := digitCount_le_of_near finite positive near
  have least := le_digitCount_of_near nonzero near
  have bounded : x.magnitude < infinityBits := by simpa [isFinite] using finite
  -- So none of the shortcuts for zero, overflow and underflow is taken.
  unfold ofDecimal
  rw [if_neg (by omega), if_neg (by omega), if_neg (by omega)]
  change ofMagnitude negative (magnitudeNear d.numerator d.denominator) = _
  rw [near.magnitudeNear_eq numerator_pos d.denominator_pos, ← magnitude_eq,
    Nat.min_eq_left bounded.le]

/-! ### The shortest decimal -/

/-- A point that is found on a grid lies in the interval. -/
theorem Interval.holds_of_pointOn {i : Interval} {tie : Tie} {exponent : Int} {d : Decimal}
    (found : i.pointOn tie exponent = some d) : i.holds d = true := by
  unfold pointOn at found
  dsimp only at found
  -- Either neighbour on the grid may be the point, and it was tested that the interval holds it.
  split at found
  case h_1 lower upper =>
    rw [Bool.and_eq_true] at lower
    cases found
    split
    · exact upper
    · exact lower.1
  case h_2 lower _ =>
    rw [Bool.and_eq_true] at lower
    cases found
    exact lower.1
  case h_3 upper =>
    cases found
    exact upper
  case h_4 => cases found

/-- What the search finds lies in the interval. -/
theorem Interval.holds_of_search {i : Interval} {tie : Tie} {steps : Nat} {exponent : Int}
    {d : Decimal} (found : i.search tie steps exponent = some d) : i.holds d = true := by
  -- The search only ever returns a point that was found on some grid.
  induction steps generalizing exponent with
  | zero => cases found
  | succ steps ih =>
    rw [search] at found
    split at found
    case h_1 hit =>
      cases found
      exact holds_of_pointOn hit
    case h_2 => exact ih found

/-- The exact value of a double lies in its interval. -/
theorem holds_exactDecimal {x : Double} (nonzero : x.isZero = false) :
    x.interval.holds x.exactDecimal = true := by
  have positive := significand_pos nonzero
  have value : x.exactDecimal.numerator * x.interval.denominator =
      4 * x.significand * (2 ^ x.scale.toNat * x.exactDecimal.denominator) := by
    -- Ten to a power is two and five to it, and the fives are what the exact digits make up for.
    have ten : (10 : Nat) ^ (-x.scale).toNat = 2 ^ (-x.scale).toNat * 5 ^ (-x.scale).toNat := by
      rw [← Nat.mul_pow]
    simp only [Decimal.numerator, Decimal.denominator, exactDecimal, numerator, interval,
      Nat.pow_eq]
    simp only [Int.neg_neg, Int.toNat_natCast, Int.toNat_neg_natCast, ten]
    ring
  have unit : 0 < 2 ^ x.scale.toNat * x.exactDecimal.denominator :=
    Nat.mul_pos (by positivity) (Decimal.denominator_pos _)
  -- In quarters of the last place the value is four times the significand, and each end is at
  -- least one quarter away from it.
  have low : x.interval.low * x.exactDecimal.denominator <
      x.exactDecimal.numerator * x.interval.denominator := by
    rw [value]
    simp only [interval, Nat.pow_eq]
    rw [Nat.mul_assoc]
    refine Nat.mul_lt_mul_of_pos_right ?_ unit
    split <;> omega
  have high : x.exactDecimal.numerator * x.interval.denominator <
      x.interval.high * x.exactDecimal.denominator := by
    rw [value]
    simp only [interval, Nat.pow_eq]
    rw [Nat.mul_assoc _ (2 ^ x.scale.toNat)]
    exact Nat.mul_lt_mul_of_pos_right (by omega) unit
  rw [Interval.holds_eq]
  split
  · exact decide_eq_true ⟨low.le, high.le⟩
  · exact decide_eq_true ⟨low, high⟩

/-- The shortest decimal of a double that is not zero lies in its interval. -/
theorem holds_shortest {x : Double} (nonzero : x.isZero = false) (tie : Tie) :
    x.interval.holds (shortest tie x) = true := by
  unfold shortest
  rw [if_neg (by simp [nonzero])]
  cases found : x.interval.search tie 20 x.decimalBound with
  -- After twenty grids without a point the exact value is shown.
  | none => exact holds_exactDecimal nonzero
  | some d => exact Interval.holds_of_search found

end ToolPolicy.Double
