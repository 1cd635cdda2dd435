import ToolPolicy.Double.Layout
import ToolPolicy.Proofs.Double.Shortest

/-! Which doubles are whole numbers, and how large the numbers are that they are shown as. -/

namespace ToolPolicy.Double

/-! ### The exponent of the shortest decimal -/

namespace Interval

variable {i : Interval} {tie : Tie} {d : Decimal}

/-- A point of a grid has the exponent of the grid. -/
theorem exponent_of_pointOn {exponent : Int} (found : i.pointOn tie exponent = some d) :
    d.exponent = exponent := by
  unfold pointOn at found
  dsimp only at found
  -- Both candidates are made with the exponent of the grid.
  split at found
  · cases found
    split <;> rfl
  · cases found
    rfl
  · cases found
    rfl
  · cases found

/-- The search finds nothing finer than its last grid. -/
theorem lt_exponent_of_search {steps : Nat} {start : Int}
    (found : i.search tie steps start = some d) : start - steps < d.exponent := by
  -- Every step goes to the next finer grid.
  induction steps generalizing start with
  | zero => cases found
  | succ steps ih =>
    rw [search] at found
    split at found
    · next hit =>
      cases found
      have exponent := exponent_of_pointOn hit
      omega
    · have later := ih found
      omega

/-- The search stops at a grid with a point, if it does not stop before. -/
theorem exists_search {steps : Nat} {start goal : Int} {hit : Decimal}
    (point : i.pointOn tie goal = some hit) (below : goal ≤ start) (within : start < goal + steps) :
    ∃ d, i.search tie steps start = some d ∧ goal ≤ d.exponent := by
  induction steps generalizing start with
  | zero => omega
  | succ steps ih =>
    rw [search]
    cases found : i.pointOn tie start with
    | some d => exact ⟨d, rfl, (exponent_of_pointOn found).symm ▸ below⟩
    | none =>
      -- The grid with the point is a finer one.
      have other : goal ≠ start := by
        rintro rfl
        exact absurd (point.symm.trans found) (Option.some_ne_none _)
      exact ih (by omega) (by omega)

end Interval

/-! ### Whole numbers -/

/-- The part of the size of a double before the point. -/
def wholePart (x : Double) : Nat := x.numerator / x.denominator

/-- A double without a part behind the point. -/
def IsWhole (x : Double) : Prop := x.isFinite = true ∧ x.denominator ∣ x.numerator

instance : DecidablePred IsWhole := fun _ => inferInstanceAs (Decidable (_ ∧ _))

theorem denominator_pos (x : Double) : 0 < x.denominator := Nat.pow_pos (by decide)

/-- A whole double is the quotient that its parts stand for. -/
theorem wholePart_mul {x : Double} (whole : x.denominator ∣ x.numerator) :
    x.wholePart * x.denominator = x.numerator := Nat.div_mul_cancel whole

/-- Zeros have no numerator. -/
theorem numerator_of_isZero {x : Double} (zero : x.isZero = true) : x.numerator = 0 := by
  have vanishes : x.magnitude = 0 := by simpa [isZero] using zero
  simp [numerator, significand, vanishes, impliedBit]

/-- A double with a part behind the point is not zero. -/
theorem isZero_of_not_dvd {x : Double} (broken : ¬x.denominator ∣ x.numerator) :
    x.isZero = false := by
  by_contra zero
  rw [Bool.not_eq_false] at zero
  exact broken (by simp [numerator_of_isZero zero])

/-- The size of a double that is not zero has a numerator. -/
theorem numerator_pos {x : Double} (nonzero : x.isZero = false) : 0 < x.numerator :=
  Nat.mul_pos (significand_pos nonzero) (Nat.pow_pos (by decide))

/-- A whole double that is not zero is at least one. -/
theorem wholePart_pos {x : Double} (nonzero : x.isZero = false)
    (whole : x.denominator ∣ x.numerator) : 0 < x.wholePart :=
  Nat.div_pos (Nat.le_of_dvd (numerator_pos nonzero) whole) x.denominator_pos

/-- A double with a part before the point is not zero. -/
theorem isZero_of_wholePart_pos {x : Double} (positive : 0 < x.wholePart) : x.isZero = false := by
  by_contra zero
  rw [Bool.not_eq_false] at zero
  simp [wholePart, numerator_of_isZero zero] at positive

/-- The size of a whole double lies in its interval. -/
theorem holds_wholePart {x : Double} (nonzero : x.isZero = false)
    (whole : x.denominator ∣ x.numerator) : x.interval.holds ⟨x.wholePart, 0⟩ = true := by
  have ten : (10 : Nat) ^ (-x.scale).toNat = 2 ^ (-x.scale).toNat * 5 ^ (-x.scale).toNat := by
    rw [← Nat.mul_pow]
  have divisor : x.denominator = 2 ^ (-x.scale).toNat := rfl
  -- The exact decimal is the same number, written with more digits.
  have same : x.interval.holds x.exactDecimal = x.interval.holds ⟨x.wholePart, 0⟩ := by
    refine Interval.holds_of_scaled (show 0 < 10 ^ (-x.scale).toNat by positivity) ?_ ?_
    · simp only [Decimal.numerator, exactDecimal, Int.toNat_neg_natCast, pow_zero, mul_one,
        Int.toNat_zero, Nat.pow_eq]
      rw [← wholePart_mul whole, divisor, ten]
      ring
    · simp only [Decimal.denominator, exactDecimal, Int.neg_neg, Int.toNat_natCast, Int.neg_zero,
        Int.toNat_zero, pow_zero, mul_one]
  rw [← same, holds_exactDecimal nonzero]

/-- The grid of the whole numbers has a point in the interval of a whole double. -/
theorem exists_pointOn_zero {x : Double} (nonzero : x.isZero = false)
    (whole : x.denominator ∣ x.numerator) (tie : Tie) :
    ∃ d, x.interval.pointOn tie 0 = some d := by
  have lower : x.interval.below 0 = ⟨x.wholePart, 0⟩ := by
    have quotient : 4 * x.significand * Nat.pow 2 x.scale.toNat /
        (4 * Nat.pow 2 (-x.scale).toNat) = x.wholePart := by
      rw [Nat.mul_assoc]
      exact Nat.mul_div_mul_left _ _ (by decide)
    simpa [Interval.below, interval] using quotient
  have counts : (x.wholePart != 0) = true := by simpa using (wholePart_pos nonzero whole).ne'
  -- The double is a point of this grid, and whether its neighbour lies in the interval too only
  -- decides between the two.
  unfold Interval.pointOn
  dsimp only
  rw [lower, holds_wholePart nonzero whole, counts]
  cases x.interval.holds ⟨x.wholePart + 1, 0⟩ with
  | true => exact ⟨_, rfl⟩
  | false => exact ⟨_, rfl⟩

/-- The first bit of a whole double that is not zero stands before the point. -/
theorem log2_add_scale_nonneg {x : Double} (nonzero : x.isZero = false)
    (whole : x.denominator ∣ x.numerator) : 0 ≤ (x.significand.log2 : Int) + x.scale := by
  have least : x.denominator ≤ x.numerator := Nat.le_of_dvd (numerator_pos nonzero) whole
  -- With a scale that is not negative there is nothing to show.
  rcases le_or_gt 0 x.scale with up | down
  · omega
  · have flat : x.scale.toNat = 0 := by omega
    have power : 2 ^ (-x.scale).toNat ≤ x.significand := by
      simpa [denominator, numerator, flat] using least
    have exponent := (Nat.le_log2 (significand_pos nonzero).ne').mpr power
    omega

/-- The shortest decimal of a whole double has no digits behind the point. -/
theorem exponent_shortest_of_whole {x : Double} (whole : x.denominator ∣ x.numerator) (tie : Tie) :
    0 ≤ (shortest tie x).exponent := by
  unfold shortest
  split
  · exact le_rfl
  · next nonzero =>
    rw [Bool.not_eq_true] at nonzero
    obtain ⟨hit, point⟩ := exists_pointOn_zero nonzero whole tie
    have large := x.significand_lt
    have positive := significand_pos nonzero
    have log : x.significand.log2 < 53 := (Nat.log2_lt positive.ne').mpr large
    -- As the double is at least one, its first grid is coarser than that of the whole numbers.
    have reaches := log2_add_scale_nonneg nonzero whole
    have start : 1 ≤ x.decimalBound := by
      unfold decimalBound
      omega
    rcases lt_or_ge x.decimalBound 20 with within | beyond
    · obtain ⟨d, found, exponent⟩ : ∃ d, x.interval.search tie 20 x.decimalBound = some d ∧
          0 ≤ d.exponent := Interval.exists_search point (by omega) (by omega)
      rw [found]
      exact exponent
    · -- Where the search does not come so far, the double has no denominator.
      have up : 0 ≤ x.scale := by
        unfold decimalBound at beyond
        omega
      cases found : x.interval.search tie 20 x.decimalBound with
      | none =>
        have flat : (-x.scale).toNat = 0 := by omega
        simp [exactDecimal, flat]
      | some d =>
        have exponent := Interval.lt_exponent_of_search found
        simp only [Option.getD_some]
        omega

/-- A whole number in the interval of a double lies between the midpoints around it. -/
theorem near_of_holds {x : Double} (nonzero : x.isZero = false) {d : Decimal}
    (whole : 0 ≤ d.exponent) (held : x.interval.holds d = true) :
    NearDouble (d.coefficient * 10 ^ d.exponent.toNat) 1 x.significand x.scale := by
  have near := nearDouble_of_holds nonzero held
  have unit : d.denominator = 1 := by
    have flat : (-d.exponent).toNat = 0 := by omega
    simp [Decimal.denominator, flat]
  rwa [unit] at near

/-- A double with a whole number between the midpoints around it is whole. -/
theorem NearDouble.dvd {x : Double} {n : Nat} (near : NearDouble n 1 x.significand x.scale) :
    x.denominator ∣ x.numerator := by
  obtain ⟨lower, upper, -⟩ := near.near
  -- Below scale zero both are whole in units of the scale and at most half a unit apart, and so
  -- they are equal.
  rcases le_or_gt 0 x.scale with up | down
  · have undivided : (-x.scale).toNat = 0 := by omega
    simp [denominator, undivided]
  · have flat : x.scale.toNat = 0 := by omega
    simp only [flat, pow_zero, mul_one] at lower upper
    refine ⟨n, ?_⟩
    simp only [numerator, denominator, flat, Nat.pow_eq, pow_zero, mul_one]
    rw [Nat.mul_comm]
    omega

/-- The shortest decimal has no digits behind the point exactly where the double is whole. -/
theorem exponent_shortest_iff (x : Double) (tie : Tie) :
    0 ≤ (shortest tie x).exponent ↔ x.denominator ∣ x.numerator := by
  constructor
  · intro exponent
    cases zero : x.isZero with
    | true => simp [numerator_of_isZero zero]
    | false => exact (near_of_holds zero exponent (holds_shortest zero tie)).dvd
  · exact fun whole => exponent_shortest_of_whole whole tie

/-! ### The whole number that is shown -/

/-- A power of two that a double does not reach is not reached by a whole number near it either. -/
theorem NearDouble.lt_two_pow {x : Double} {n k : Nat}
    (near : NearDouble n 1 x.significand x.scale)
    (small : x.numerator < 2 ^ k * x.denominator) : n < 2 ^ k := by
  have upper := near.near.upper
  have normal := near.normal
  simp only [numerator, denominator, Nat.pow_eq] at small
  -- Up to scale zero the unit is at most one, so that a whole number on the other side of the power
  -- is too far away.
  rcases le_or_gt x.scale 0 with down | up
  · have flat : x.scale.toNat = 0 := by omega
    simp only [flat, pow_zero, mul_one] at upper small
    exact Nat.lt_of_mul_lt_mul_right (by omega : n * 2 ^ (-x.scale).toNat < _)
  · have undivided : (-x.scale).toNat = 0 := by omega
    simp only [undivided, pow_zero, mul_one, one_mul] at upper small
    have unit : 0 < 2 ^ x.scale.toNat := by positivity
    have bits : impliedBit ≤ x.significand := normal.resolve_right (by omega)
    rcases le_or_gt x.scale.toNat k with within | beyond
    · -- The power is a multiple of the place of the last bit, and the double a smaller one.
      obtain ⟨j, rfl⟩ := Nat.exists_eq_add_of_le within
      rw [Nat.pow_add, Nat.mul_comm (2 ^ x.scale.toNat)] at small ⊢
      have less := Nat.lt_of_mul_lt_mul_right small
      have step : (x.significand + 1) * 2 ^ x.scale.toNat ≤ 2 ^ j * 2 ^ x.scale.toNat :=
        Nat.mul_le_mul_right _ less
      rw [Nat.succ_mul] at step
      omega
    · have power : 2 ^ k ≤ 2 ^ x.scale.toNat := Nat.pow_le_pow_right (by decide) beyond.le
      have reached : 1 * 2 ^ x.scale.toNat ≤ x.significand * 2 ^ x.scale.toNat :=
        Nat.mul_le_mul_right _ (by unfold impliedBit at bits; omega)
      omega

/-- A power of two that a double passes is passed by a whole number near it as well. -/
theorem NearDouble.two_pow_lt {x : Double} {n k : Nat}
    (near : NearDouble n 1 x.significand x.scale)
    (large : 2 ^ k * x.denominator < x.numerator) : 2 ^ k < n := by
  have lower := near.near.lower
  have normal := near.normal
  simp only [numerator, denominator, Nat.pow_eq] at large
  rcases le_or_gt x.scale 0 with down | up
  · have flat : x.scale.toNat = 0 := by omega
    simp only [flat, pow_zero, mul_one] at lower large
    exact Nat.lt_of_mul_lt_mul_right (by omega : 2 ^ k * 2 ^ (-x.scale).toNat < _)
  · have undivided : (-x.scale).toNat = 0 := by omega
    simp only [undivided, pow_zero, mul_one, one_mul] at lower large
    have unit : 0 < 2 ^ x.scale.toNat := by positivity
    have bits : impliedBit ≤ x.significand := normal.resolve_right (by omega)
    rcases le_or_gt x.scale.toNat k with within | beyond
    -- The power is a multiple of the last place, and the double is at least one place beyond it.
    · obtain ⟨j, rfl⟩ := Nat.exists_eq_add_of_le within
      rw [Nat.pow_add, Nat.mul_comm (2 ^ x.scale.toNat)] at large ⊢
      have more := Nat.lt_of_mul_lt_mul_right large
      have step : (2 ^ j + 1) * 2 ^ x.scale.toNat ≤ x.significand * 2 ^ x.scale.toNat :=
        Nat.mul_le_mul_right _ more
      rw [Nat.succ_mul] at step
      omega
    · -- The place of the last bit is at least the power, and the double has more bits than one.
      have power : 2 ^ k ≤ 2 ^ x.scale.toNat := Nat.pow_le_pow_right (by decide) beyond.le
      have reached : 2 * 2 ^ x.scale.toNat ≤ x.significand * 2 ^ x.scale.toNat :=
        Nat.mul_le_mul_right _ (by unfold impliedBit at bits; omega)
      omega

/-- The whole number that a whole double is shown as: its shortest digits, filled up by zeros. -/
def shownWhole (x : Double) : Nat :=
  (shortest displayLayout.tie x).coefficient * 10 ^ (shortest displayLayout.tie x).exponent.toNat

/-- The whole number that is shown is near the double. -/
theorem near_shownWhole {x : Double} (nonzero : x.isZero = false)
    (whole : x.denominator ∣ x.numerator) :
    NearDouble x.shownWhole 1 x.significand x.scale :=
  near_of_holds nonzero ((exponent_shortest_iff x _).mpr whole) (holds_shortest nonzero _)

/-- A whole double that is not zero is not shown as zero. -/
theorem shownWhole_pos {x : Double} (nonzero : x.isZero = false)
    (whole : x.denominator ∣ x.numerator) : 0 < x.shownWhole := by
  -- Zero is a whole unit away at least, which is more than the midpoint.
  by_contra none
  have near := (near_shownWhole nonzero whole).near.lower
  have unit : 0 < 2 ^ x.scale.toNat := by positivity
  have size : 1 * 2 ^ x.scale.toNat ≤ x.significand * 2 ^ x.scale.toNat :=
    Nat.mul_le_mul_right _ (significand_pos nonzero)
  rw [Nat.eq_zero_of_not_pos none, Nat.zero_mul, one_mul] at near
  omega

/-- Zero is shown as zero. -/
theorem shownWhole_of_isZero {x : Double} (zero : x.isZero = true) : x.shownWhole = 0 := by
  simp [shownWhole, shortest, zero]

/-- What is not shown as zero is not zero. -/
theorem isZero_of_shownWhole_pos {x : Double} (positive : 0 < x.shownWhole) : x.isZero = false := by
  by_contra zero
  rw [Bool.not_eq_false] at zero
  rw [shownWhole_of_isZero zero] at positive
  exact lt_irrefl 0 positive

/-- A whole double is the number before its point. -/
theorem ofDecimal_wholePart {x : Double} (whole : x.IsWhole) (nonzero : x.isZero = false) :
    ofDecimal x.isNegative x.wholePart 0 = x := by
  rw [ofDecimal_of_holds whole.1 nonzero (holds_wholePart nonzero whole.2),
    ofMagnitude_isNegative]

/-- A double that is not zero is the whole number that it is shown as. -/
theorem ofDecimal_shownWhole {x : Double} (whole : x.IsWhole) (nonzero : x.isZero = false) :
    ofDecimal x.isNegative x.shownWhole 0 = x := by
  have exponent := (exponent_shortest_iff x displayLayout.tie).mpr whole.2
  -- The digits with their zeros are the shortest decimal, written with the exponent zero.
  have held : x.interval.holds ⟨x.shownWhole, 0⟩ = true := by
    have same : x.interval.holds ⟨x.shownWhole, 0⟩ =
        x.interval.holds (shortest displayLayout.tie x) := by
      refine Interval.holds_of_scaled Nat.one_pos ?_ ?_
      · simp [Decimal.numerator, shownWhole]
      · have flat : (-(shortest displayLayout.tie x).exponent).toNat = 0 := by omega
        simp [Decimal.denominator, flat]
    rw [same, holds_shortest nonzero]
  rw [ofDecimal_of_holds whole.1 nonzero held, ofMagnitude_isNegative]

/-- A whole double is the double nearest to the whole number that it is shown as. -/
theorem ofRatio_shownWhole {x : Double} (whole : x.IsWhole) (nonzero : x.isZero = false) :
    ofRatio x.isNegative x.shownWhole 1 = x := by
  have finite : x.magnitude < infinityBits := by simpa [isFinite] using whole.1
  have near := near_shownWhole nonzero whole.2
  rw [ofRatio, near.magnitudeNear_eq (shownWhole_pos nonzero whole.2) Nat.one_pos, ← magnitude_eq,
    Nat.min_eq_left finite.le, ofMagnitude_isNegative]

/-- A whole double below a power of two is shown below it. -/
theorem shownWhole_lt {x : Double} (whole : x.IsWhole) {k : Nat} (small : x.wholePart < 2 ^ k) :
    x.shownWhole < 2 ^ k := by
  cases zero : x.isZero with
  | true =>
    rw [shownWhole_of_isZero zero]
    positivity
  | false =>
    refine (near_shownWhole zero whole.2).lt_two_pow ?_
    rw [← wholePart_mul whole.2]
    exact Nat.mul_lt_mul_of_pos_right small x.denominator_pos

/-- A whole double above a power of two is shown above it. -/
theorem lt_shownWhole {x : Double} (whole : x.IsWhole) {k : Nat} (large : 2 ^ k < x.wholePart) :
    2 ^ k < x.shownWhole := by
  have nonzero := isZero_of_wholePart_pos (Nat.zero_lt_of_lt large)
  refine (near_shownWhole nonzero whole.2).two_pow_lt ?_
  rw [← wholePart_mul whole.2]
  exact Nat.mul_lt_mul_of_pos_right large x.denominator_pos

/-- What is shown of a whole double reaches the ends of the integers that it reaches itself, as
these powers of two are shown rounded up. -/
theorem le_shownWhole_iff {x : Double} (whole : x.IsWhole) {k : Nat}
    (end_ : k = 63 ∨ k = 64 ∨ k = 128) : 2 ^ k ≤ x.shownWhole ↔ 2 ^ k ≤ x.wholePart := by
  constructor
  · intro shown
    by_contra small
    exact absurd (shownWhole_lt whole (not_le.mp small)) (not_lt.mpr shown)
  · intro large
    rcases large.lt_or_eq with beyond | same
    · exact (lt_shownWhole whole beyond).le
    -- At the power itself there are a few doubles to look at, one for each end and sign.
    · have value := ofDecimal_wholePart whole (isZero_of_wholePart_pos (same ▸ by positivity))
      rw [← value, ← same]
      rcases end_ with rfl | rfl | rfl <;> cases x.isNegative <;> decide +kernel

/-- The least integer of one hundred and twenty-eight bits is shown rounded towards zero, so that no
double that is not beyond it is shown beyond it. -/
theorem lt_shownWhole_iff {x : Double} (whole : x.IsWhole) :
    2 ^ 127 < x.shownWhole ↔ 2 ^ 127 < x.wholePart := by
  constructor
  · intro shown
    by_contra small
    rcases (not_lt.mp small).lt_or_eq with below | same
    · exact absurd (shownWhole_lt whole below) shown.not_gt
    -- The power itself is shown as it is, with either sign.
    · have value := ofDecimal_wholePart whole (isZero_of_wholePart_pos (same ▸ by positivity))
      revert shown
      rw [← value, same]
      cases x.isNegative <;> decide +kernel
  · exact lt_shownWhole whole

end ToolPolicy.Double
