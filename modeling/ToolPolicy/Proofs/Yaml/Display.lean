import ToolPolicy.Proofs.Double.Whole
import ToolPolicy.Proofs.Yaml.Number

/-! What the display texts of doubles stand for as plain scalars. Display text knows neither
exponents nor a point behind whole numbers, so that some doubles are read as integers and others not
at all. -/

namespace ToolPolicy.Yaml

open Double (Decimal displayLayout)

/-! ### Digits with a sign -/

/-- Digits behind a sign are a decimal without a point. -/
theorem decimal?_signed_ofNat (negative : Bool) (n : Nat) :
    decimal? (signed negative (Digits.ofNat n)) = some (Double.ofDecimal negative n 0) := by
  have all (c : Char) (member : c ∈ Digits.ofNat n) : c.isDigit = true :=
    Digits.isDigit_of_mem_ofNat member
  have value := Digits.toNat_ofNat n
  obtain ⟨c, rest, digits, first⟩ := exists_ofNat_eq n
  rw [digits] at all value ⊢
  rw [decimal?_signed first]
  unfold unsignedDecimal?
  -- All of it is the whole part, and nothing is left for a point or an exponent.
  rw [List.takeWhile_eq_self_iff.mpr all, List.dropWhile_eq_nil_iff.mpr all]
  simp [value]

/-- Digits behind a sign are a double where they are no integer any more. -/
theorem resolve_signed_large {negative : Bool} {n : Nat} (large : greatestSize negative 128 < n)
    (finite : (Double.ofDecimal negative n 0).isFinite = true) :
    resolve (signed negative (Digits.ofNat n)) = .float (Double.ofDecimal negative n 0) := by
  have less : greatestSize negative 64 ≤ greatestSize negative 128 := by
    cases negative <;> decide
  -- Beyond the wide integers the digits are left to the doubles.
  have noInteger := integer?_signed negative n
  rw [if_neg (by omega), if_neg (by omega)] at noInteger
  have read := decimal?_signed_ofNat negative n
  have numeric := isNumeric_signed negative fun c member => isNumeric_of_mem_ofNat (n := n) member
  have noZero : hasLeadingZero (signed negative (Digits.ofNat n)) = false := by
    cases negative with
    | true => exact leadingZero_ofNat n
    | false => exact hasLeadingZero_ofNat n
  -- What is known of the digits is turned to their first one.
  obtain ⟨c, rest, digits, first⟩ := exists_ofNat_eq n
  rw [digits] at noInteger read numeric noZero ⊢
  exact resolve_of_decimal first numeric noInteger noZero read finite

/-- Digits behind signs are the same where the signs and the numbers are. -/
theorem signed_ofNat_inj_iff {negative negative' : Bool} {m n : Nat} :
    signed negative (Digits.ofNat m) = signed negative' (Digits.ofNat n) ↔
      negative = negative' ∧ m = n := by
  constructor
  · intro same
    -- A sign is no digit, so that there is one on both sides or on none.
    have unsigned {k l : Nat} : '-' :: Digits.ofNat k ≠ Digits.ofNat l := fun same =>
      absurd (Digits.isDigit_of_mem_ofNat (same ▸ List.mem_cons_self)) (by decide)
    have inj {k l : Nat} (same : Digits.ofNat k = Digits.ofNat l) : k = l := by
      have values := congrArg Digits.toNat same
      rwa [Digits.toNat_ofNat, Digits.toNat_ofNat] at values
    cases negative <;> cases negative'
    · exact ⟨rfl, inj same⟩
    · exact absurd same.symm unsigned
    · exact absurd same unsigned
    · exact ⟨rfl, inj (List.cons.inj same).2⟩
  · rintro ⟨rfl, rfl⟩
    rfl

/-! ### Sizes of doubles -/

/-- A double with a part behind the point shows a decimal of its interval with a point. -/
theorem exists_spells_displayText {x : Double} (broken : ¬x.denominator ∣ x.numerator) :
    ∃ d, Spells (displayLayout.sizeText x) d ∧ x.interval.holds d = true := by
  have nonzero := Double.isZero_of_not_dvd broken
  have exponent := mt (Double.exponent_shortest_iff x displayLayout.tie).mp broken
  have held := Double.holds_shortest nonzero displayLayout.tie
  -- The exponent is negative, so that the point stands among the digits or before them.
  have point : ((Digits.ofNat (Double.shortest displayLayout.tie x).coefficient).length : Int) +
      (Double.shortest displayLayout.tie x).exponent <
        (Digits.ofNat (Double.shortest displayLayout.tie x).coefficient).length := by omega
  obtain ⟨d, spelled, held⟩ := exists_spells_positionalText held
  refine ⟨d, ?_, held⟩
  -- The point does not come after all digits, where display text would leave it out.
  have same : displayLayout.sizeText x = Double.yamlLayout.positionalText
      (Digits.ofNat (Double.shortest displayLayout.tie x).coefficient)
      ((Digits.ofNat (Double.shortest displayLayout.tie x).coefficient).length +
        (Double.shortest displayLayout.tie x).exponent) := by
    have positional (point : Int) : displayLayout.positional point = true := rfl
    simp only [Double.Layout.sizeText, nonzero, positional, Bool.false_eq_true, if_false, if_true]
    generalize ((Digits.ofNat (Double.shortest displayLayout.tie x).coefficient).length : Int) +
      (Double.shortest displayLayout.tie x).exponent = place at point
    unfold Double.Layout.positionalText
    split
    · rfl
    · rw [if_neg (by omega), if_neg (by omega)]
  rwa [same]

/-- A whole double shows a whole number. -/
theorem sizeText_of_whole {x : Double} (whole : x.denominator ∣ x.numerator) :
    displayLayout.sizeText x = Digits.ofNat x.shownWhole := by
  cases zero : x.isZero with
  | true =>
    rw [Double.shownWhole_of_isZero zero]
    rw [Digits.ofNat, if_pos (by decide)]
    simp only [Double.Layout.sizeText, zero, if_true]
    rfl
  -- The exponent is not negative, and as many zeros follow the digits.
  | false =>
    have exponent := (Double.exponent_shortest_iff x displayLayout.tie).mpr whole
    have positive : 0 < (Double.shortest displayLayout.tie x).coefficient :=
      Nat.pos_of_mul_pos_right (Double.shownWhole_pos zero whole)
    have positional (point : Int) : displayLayout.positional point = true := rfl
    have noPoint : displayLayout.wholePoint = false := rfl
    have written := List.length_pos_iff.mpr
      (Digits.ofNat_ne_nil (Double.shortest displayLayout.tie x).coefficient)
    simp only [Double.Layout.sizeText, zero, positional, Bool.false_eq_true, if_false, if_true,
      Double.Layout.positionalText, noPoint, List.append_nil]
    rw [if_neg (by omega), if_pos (by omega), Double.shownWhole, Digits.ofNat_mul_pow positive]
    congr 2
    omega

/-- The size of a double is shown with a digit in front. -/
theorem exists_sizeText_eq (x : Double) :
    ∃ c rest, displayLayout.sizeText x = c :: rest ∧ c.isDigit = true := by
  by_cases whole : x.denominator ∣ x.numerator
  · rw [sizeText_of_whole whole]
    exact exists_ofNat_eq x.shownWhole
  · obtain ⟨d, spelled, -⟩ := exists_spells_displayText whole
    exact spelled.exists_eq

/-! ### Texts of doubles -/

/-- The text of a finite double is that of its size behind a sign. -/
theorem displayText_of_isFinite {x : Double} (finite : x.isFinite = true) :
    displayLayout.chars x = signed x.isNegative (displayLayout.sizeText x) := by
  have below : x.magnitude < Double.infinityBits := by simpa [Double.isFinite] using finite
  have number : x.isNaN = false := by simp [Double.isNaN, below.le]
  have bounded : x.isInfinite = false := by simp [Double.isInfinite, below.ne]
  simp [Double.Layout.chars, number, bounded, signed]

/-- The text of a whole double is that of the number that is shown. -/
theorem displayText_of_isWhole {x : Double} (whole : x.IsWhole) :
    displayLayout.chars x = signed x.isNegative (Digits.ofNat x.shownWhole) := by
  rw [displayText_of_isFinite whole.1, sizeText_of_whole whole.2]

/-- What is neither finite nor infinite is no number. -/
theorem isNaN_or_isInfinite {x : Double} (infinite : x.isFinite = false) :
    x.isNaN = true ∨ x.isInfinite = true := by
  simp only [Double.isFinite, Double.isInfinite, Double.isNaN, decide_eq_false_iff_not,
    decide_eq_true_eq, beq_iff_eq] at infinite ⊢
  omega

/-- The texts of other doubles are words. -/
theorem displayText_of_not_isFinite {x : Double} (infinite : x.isFinite = false) :
    displayLayout.chars x =
      if x.isNaN then "NaN".toList else signed x.isNegative "inf".toList := by
  unfold Double.Layout.chars
  split
  · rfl
  · next number => simp [(isNaN_or_isInfinite infinite).resolve_left number, signed, displayLayout]

/-- The text of a double is a decimal exactly where the double is finite, and then stands for it. -/
theorem decimal?_displayText (x : Double) :
    decimal? (displayLayout.chars x) = if x.isFinite then some x else none := by
  cases finite : x.isFinite with
  -- The words for infinities and for what is no number are no decimals.
  | false =>
    rw [displayText_of_not_isFinite finite, if_neg Bool.false_ne_true]
    split
    · decide
    · cases x.isNegative <;> decide
  | true =>
    rw [displayText_of_isFinite finite, if_pos rfl]
    by_cases whole : x.denominator ∣ x.numerator
    · rw [sizeText_of_whole whole, decimal?_signed_ofNat]
      cases zero : x.isZero with
      -- The two zeros show one digit, and the sign in front of it tells them apart.
      | true =>
        have vanishes : x.magnitude = 0 := by simpa [Double.isZero] using zero
        have same := Double.ofMagnitude_isNegative x
        rw [vanishes] at same
        rw [Double.shownWhole_of_isZero zero]
        exact congrArg some same
      | false => rw [Double.ofDecimal_shownWhole ⟨finite, whole⟩ zero]
    · obtain ⟨d, spelled, held⟩ := exists_spells_displayText whole
      rw [spelled.decimal?_eq,
        Double.ofDecimal_of_holds finite (Double.isZero_of_not_dvd whole) held,
        Double.ofMagnitude_isNegative]

/-- Infinities have their signs to tell them apart, and values that are no numbers have nothing. -/
theorem displayText_inj_of_not_isFinite {x y : Double} (infinite : x.isFinite = false)
    (infinite' : y.isFinite = false) (same : displayLayout.chars x = displayLayout.chars y) :
    x = y ∨ x.isNaN = true ∧ y.isNaN = true := by
  -- The two kinds of words never agree, whatever the signs.
  have words (negative : Bool) : signed negative "inf".toList ≠ "NaN".toList := by
    cases negative <;> decide
  have signs : ∀ a b : Bool, signed a "inf".toList = signed b "inf".toList → a = b := by decide
  rw [displayText_of_not_isFinite infinite, displayText_of_not_isFinite infinite'] at same
  split at same
  · next none =>
    split at same
    · next none' => exact .inr ⟨none, none'⟩
    · exact absurd same.symm (words _)
  · next number =>
    split at same
    · exact absurd same (words _)
    · next number' =>
      have size := (isNaN_or_isInfinite infinite).resolve_left number
      have size' := (isNaN_or_isInfinite infinite').resolve_left number'
      simp only [Double.isInfinite, beq_iff_eq] at size size'
      left
      rw [← Double.ofMagnitude_isNegative x, ← Double.ofMagnitude_isNegative y, signs _ _ same,
        size, size']

/-- Only values that are no numbers share their text with another double. -/
theorem displayText_inj_iff {x y : Double} :
    displayLayout.chars x = displayLayout.chars y ↔ x = y ∨ x.isNaN = true ∧ y.isNaN = true := by
  constructor
  · intro same
    -- A finite double is found in its text, so that the other one is that double.
    have decimals := congrArg decimal? same
    rw [decimal?_displayText, decimal?_displayText] at decimals
    cases finite : x.isFinite with
    | true =>
      rw [finite, if_pos rfl] at decimals
      split at decimals
      · exact .inl (Option.some.inj decimals)
      · cases decimals
    | false =>
      cases finite' : y.isFinite with
      | true =>
        rw [finite, finite'] at decimals
        cases decimals
      | false => exact displayText_inj_of_not_isFinite finite finite' same
  · rintro (rfl | ⟨none, none'⟩)
    · rfl
    · simp [Double.Layout.chars, none, none']

/-- What the display text of a double stands for. -/
def displayMeaning (x : Double) : Scalar :=
  if x.isFinite = false then .string
  else if ¬x.denominator ∣ x.numerator then .float x
  else if x.shownWhole ≤ greatestSize x.isNegative 64 then
    .integer (signedInt x.isNegative x.shownWhole)
  else if x.shownWhole ≤ greatestSize x.isNegative 128 then
    .wide (signedInt x.isNegative x.shownWhole)
  else .float x

/-- A double is read as what its display text stands for. -/
theorem resolve_displayText (x : Double) : resolve (displayLayout.chars x) = displayMeaning x := by
  unfold displayMeaning
  split
  · next infinite =>
    -- The words for infinity and for no number are strings, with a sign or without.
    rw [displayText_of_not_isFinite infinite]
    split
    · decide
    · cases x.isNegative <;> rfl
  · next finite =>
    rw [Bool.not_eq_false] at finite
    rw [displayText_of_isFinite finite]
    split
    -- With a part behind the point the text spells a decimal of the interval.
    · next broken =>
      obtain ⟨d, spelled, held⟩ := exists_spells_displayText broken
      have nonzero := Double.isZero_of_not_dvd broken
      have value : Double.ofDecimal x.isNegative d.coefficient d.exponent = x := by
        rw [Double.ofDecimal_of_holds finite nonzero held, Double.ofMagnitude_isNegative]
      have read := spelled.resolve_eq x.isNegative (by rwa [value])
      rwa [value] at read
    -- A whole double is shown as an integer, which is read as such as long as it is small enough.
    · next whole =>
      rw [not_not] at whole
      rw [sizeText_of_whole whole]
      have read := integer?_signed x.isNegative x.shownWhole
      split
      · next small =>
        rw [if_pos small] at read
        exact resolve_signed read
      · next large =>
        rw [if_neg large] at read
        split
        · next wide =>
          rw [if_pos wide] at read
          exact resolve_signed read
        · next beyond =>
          have nonzero : x.isZero = false := Double.isZero_of_shownWhole_pos (by omega)
          have value := Double.ofDecimal_shownWhole ⟨finite, whole⟩ nonzero
          have read := resolve_signed_large (not_le.mp beyond) (value.symm ▸ finite)
          rwa [value] at read

/-- A double stands for no word but a string. -/
theorem displayMeaning_ne (x : Double) :
    displayMeaning x ≠ .null ∧ ∀ b, displayMeaning x ≠ .bool b := by
  unfold displayMeaning
  split
  · simp
  · split
    · simp
    · split
      · simp
      · split <;> simp

/-- A double that stands for an integer is whole. -/
theorem isWhole_of_displayMeaning {x : Double} {n : Int} (read : displayMeaning x = .integer n) :
    x.IsWhole := by
  unfold displayMeaning at read
  split at read
  · cases read
  · next finite =>
    split at read
    · cases read
    · next divisible => exact ⟨by simpa using finite, not_not.mp divisible⟩

end ToolPolicy.Yaml
