import Mathlib.Data.List.TakeWhile
import ToolPolicy.Double.Layout
import ToolPolicy.Proofs.Double.Shortest
import ToolPolicy.Proofs.Text.Digits
import ToolPolicy.Yaml.Resolve

/-! Numbers as they are written to YAML read back as the same numbers. -/

namespace ToolPolicy.Yaml

open Double (Decimal)

/-! ### Digits -/

/-- A digit has its value in base ten. -/
theorem digitIn?_ten {c : Char} (digit : c.isDigit = true) :
    digitIn? 10 c = some (Digits.value c) := by
  unfold Char.isDigit at digit
  rw [Bool.and_eq_true, decide_eq_true_eq, decide_eq_true_eq] at digit
  have range : '0' ≤ c ∧ c ≤ '9' := digit
  have small : c.toNat ≤ 57 := digit.2
  unfold digitIn? Digits.value
  rw [if_pos range, Option.filter_some, if_pos (by simp; omega)]

/-- A run of digits stands for its number. -/
theorem natIn?_ten {cs : List Char} (digits : ∀ c ∈ cs, c.isDigit = true) (some : cs ≠ []) :
    natIn? 10 cs = .some (Digits.toNat cs) := by
  -- The number so far grows along the digits.
  have folded (n : Nat) (cs : List Char) (digits : ∀ c ∈ cs, c.isDigit = true) :
      cs.foldl (fun n? c => do return (← n?) * 10 + (← digitIn? 10 c)) (Option.some n) =
        Option.some (cs.foldl (fun n c => 10 * n + Digits.value c) n) := by
    induction cs generalizing n with
    | nil => rfl
    | cons c rest ih =>
      -- Each step multiplies by the base and adds the digit.
      have first : (do return (← Option.some n) * 10 + (← digitIn? 10 c) : Option Nat) =
          Option.some (10 * n + Digits.value c) := by
        rw [digitIn?_ten (digits c List.mem_cons_self), Nat.mul_comm]
        rfl
      rw [List.foldl_cons, List.foldl_cons, first]
      exact ih _ fun d member => digits d (List.mem_cons_of_mem _ member)
  unfold natIn?
  rw [if_neg (by simpa using some), folded 0 cs digits]
  rfl

/-- A text with a character that is no digit of the base stands for no number. -/
theorem natIn?_eq_none {base : Nat} {cs : List Char} {c : Char} (member : c ∈ cs)
    (other : digitIn? base c = none) : natIn? base cs = none := by
  -- Whatever was read before the character, nothing comes after it.
  have spoiled (cs : List Char) :
      cs.foldl (fun n? c => do return (← n?) * base + (← digitIn? base c)) none = none := by
    induction cs with
    | nil => rfl
    | cons c rest ih => exact ih
  have folded (n? : Option Nat) :
      cs.foldl (fun n? c => do return (← n?) * base + (← digitIn? base c)) n? = none := by
    induction cs generalizing n? with
    | nil => cases member
    | cons d rest ih =>
      rw [List.foldl_cons]
      rcases List.mem_cons.mp member with rfl | later
      · rw [other]
        cases n? <;> exact spoiled rest
      · exact ih later _
  unfold natIn?
  split
  · rfl
  · exact folded (.some 0)

/-- The digits of a natural number read back as the number. -/
theorem natIn?_ofNat (n : Nat) : natIn? 10 (Digits.ofNat n) = some n := by
  rw [natIn?_ten (fun _ => Digits.isDigit_of_mem_ofNat) (Digits.ofNat_ne_nil n),
    Digits.toNat_ofNat]

/-- The digits of a natural number do not have a zero in front of others. -/
theorem leadingZero_ofNat (n : Nat) :
    (1 < (Digits.ofNat n).length && (Digits.ofNat n).head? == some '0' &&
      (Digits.ofNat n).all Char.isDigit) = false := by
  rcases Nat.eq_zero_or_pos n with rfl | positive
  · rw [Digits.ofNat, if_pos (by decide)]
    rfl
  · rw [beq_eq_false_iff_ne.mpr (Digits.head?_ofNat (Nat.pos_iff_ne_zero.mp positive))]
    simp

/-- The digits of a natural number are no string. -/
theorem hasLeadingZero_ofNat (n : Nat) : hasLeadingZero (Digits.ofNat n) = false := by
  have plain := leadingZero_ofNat n
  unfold hasLeadingZero
  split
  -- A sign is no digit, so that the digits are looked at from their start.
  case h_1 digits =>
    exact absurd (Digits.isDigit_of_mem_ofNat (digits ▸ List.mem_cons_self)) (by decide)
  case h_2 digits =>
    exact absurd (Digits.isDigit_of_mem_ofNat (digits ▸ List.mem_cons_self)) (by decide)
  case h_3 => exact plain

/-! ### Characters of numbers -/

/-- The characters that numbers are written with. -/
def IsNumeric (c : Char) : Prop := c.isDigit = true ∨ c = '-' ∨ c = '.' ∨ c = 'e'

instance : DecidablePred IsNumeric := fun c =>
  inferInstanceAs (Decidable (c.isDigit = true ∨ c = '-' ∨ c = '.' ∨ c = 'e'))

/-- What starts with a digit or a minus sign is no spelling of null. -/
theorem isNull_eq_false {c : Char} {rest : List Char} (first : c.isDigit = true ∨ c = '-') :
    isNull (c :: rest) = false := by
  unfold isNull
  rw [decide_eq_false_iff_not]
  intro word
  simp only [List.mem_cons, List.not_mem_nil, or_false] at word
  -- The spellings of null are the empty text, a tilde and words.
  rcases word with word | word | word | word <;> cases word <;> revert first <;> decide

/-- What starts with a digit or a minus sign is no truth value. -/
theorem bool?_eq_none {c : Char} {rest : List Char} (first : c.isDigit = true ∨ c = '-') :
    bool? (c :: rest) = none := by
  unfold bool?
  rw [if_neg, if_neg]
  all_goals
    intro word
    simp only [List.mem_cons, List.not_mem_nil, or_false] at word
    rcases word with word | word | word <;> cases word <;> revert first <;> decide

/-- A written number has no base sign. -/
theorem based?_eq_none {cs : List Char} (numeric : ∀ c ∈ cs, IsNumeric c) : based? cs = none := by
  unfold based?
  split
  case h_1 => exact absurd (numeric 'x' (by simp)) (by decide)
  case h_2 => exact absurd (numeric 'o' (by simp)) (by decide)
  case h_3 => exact absurd (numeric 'b' (by simp)) (by decide)
  case h_4 => rfl

/-- A written number has no plus sign. -/
theorem dropPlus_eq {cs : List Char} (numeric : ∀ c ∈ cs, IsNumeric c) : dropPlus cs = cs := by
  unfold dropPlus
  split
  · exact absurd (numeric '+' List.mem_cons_self) (by decide)
  · rfl

/-! ### Integers -/

/-- The digits of a natural number are numeric. -/
theorem isNumeric_of_mem_ofNat {n : Nat} {c : Char} (member : c ∈ Digits.ofNat n) : IsNumeric c :=
  .inl (Digits.isDigit_of_mem_ofNat member)

/-- The digits of an integer are numeric. -/
theorem isNumeric_of_mem_ofInt {n : Int} {c : Char} (member : c ∈ Digits.ofInt n) :
    IsNumeric c := by
  unfold Digits.ofInt at member
  split at member
  · rcases List.mem_cons.mp member with rfl | member
    · exact .inr (.inl rfl)
    · exact isNumeric_of_mem_ofNat member
  · exact isNumeric_of_mem_ofNat member

/-- The digits of a natural number are an unsigned integer up to a bound. -/
theorem unsigned?_ofNat (bound n : Nat) :
    unsigned? bound (Digits.ofNat n) = if n ≤ bound then some (n : Int) else none := by
  have numeric (c : Char) (member : c ∈ Digits.ofNat n) := isNumeric_of_mem_ofNat member
  unfold unsigned?
  rw [dropPlus_eq numeric, based?_eq_none numeric, hasLeadingZero_ofNat, natIn?_ofNat]
  -- The digits give the number, which is then compared to the bound.
  by_cases small : n ≤ bound
  · simp [Option.filter_some, small]
  · simp [Option.filter_some, small]

/-- A text with a character that is no digit is no unsigned integer. -/
theorem unsigned?_eq_none {bound : Nat} {cs : List Char} {c : Char}
    (numeric : ∀ c ∈ cs, IsNumeric c) (member : c ∈ cs) (other : digitIn? 10 c = none) :
    unsigned? bound cs = none := by
  unfold unsigned?
  rw [dropPlus_eq numeric, based?_eq_none numeric, natIn?_eq_none member other]
  simp

/-- A minus sign before the digits of a natural number makes an integer down to a bound. -/
theorem negative?_minus (bound n : Nat) :
    negative? bound ('-' :: Digits.ofNat n) = if n ≤ bound then some (-n : Int) else none := by
  have numeric (c : Char) (member : c ∈ Digits.ofNat n) := isNumeric_of_mem_ofNat member
  have plain : hasLeadingZero ('-' :: Digits.ofNat n) = false := leadingZero_ofNat n
  simp only [negative?, based?_eq_none numeric, plain, natIn?_ofNat]
  by_cases small : n ≤ bound
  · simp [Option.filter_some, small]
  · simp [Option.filter_some, small]

/-- What starts with a digit has no minus sign. -/
theorem negative?_eq_none {bound : Nat} {c : Char} {rest : List Char} (first : c.isDigit = true) :
    negative? bound (c :: rest) = none := by
  unfold negative?
  split
  case h_1 minus =>
    cases minus
    cases first
  case h_2 => rfl

/-- The digits of a natural number start with one. -/
theorem exists_ofNat_eq (n : Nat) :
    ∃ c rest, Digits.ofNat n = c :: rest ∧ c.isDigit = true := by
  obtain ⟨c, rest, digits⟩ := List.exists_cons_of_ne_nil (Digits.ofNat_ne_nil n)
  exact ⟨c, rest, digits, Digits.isDigit_of_mem_ofNat (digits ▸ List.mem_cons_self)⟩

/-- Digits with a minus sign or without. -/
def signed (negative : Bool) (cs : List Char) : List Char := if negative then '-' :: cs else cs

@[simp]
theorem signed_true (cs : List Char) : signed true cs = '-' :: cs := rfl

@[simp]
theorem signed_false (cs : List Char) : signed false cs = cs := rfl

/-- A size with a minus sign or without. -/
def signedInt (negative : Bool) (n : Nat) : Int := if negative then -n else n

/-- The greatest size that integers of some bits have with a sign or without. -/
def greatestSize (negative : Bool) (bits : Nat) : Nat :=
  if negative then 2 ^ (bits - 1) else 2 ^ bits - 1

/-- A sign changes no numeric text into another one. -/
theorem isNumeric_signed {cs : List Char} (negative : Bool) (numeric : ∀ c ∈ cs, IsNumeric c) :
    ∀ c ∈ signed negative cs, IsNumeric c := by
  cases negative with
  | true => exact List.forall_mem_cons.mpr ⟨.inr (.inl rfl), numeric⟩
  | false => exact numeric

/-- A text with a sign starts with a minus sign or a digit. -/
theorem exists_signed_eq {c : Char} (first : c.isDigit = true) (rest : List Char)
    (negative : Bool) : ∃ d others, signed negative (c :: rest) = d :: others ∧
      (d.isDigit = true ∨ d = '-') := by
  cases negative with
  | true => exact ⟨'-', c :: rest, rfl, .inr rfl⟩
  | false => exact ⟨c, rest, rfl, .inl first⟩

/-- The digits of a number are an integer up to sixty-four bits, and a wide one up to twice as
many. -/
theorem integer?_signed (negative : Bool) (n : Nat) :
    integer? (signed negative (Digits.ofNat n)) =
      if n ≤ greatestSize negative 64 then some (.integer (signedInt negative n))
      else if n ≤ greatestSize negative 128 then some (.wide (signedInt negative n))
      else none := by
  have numeric := isNumeric_signed negative fun c member => isNumeric_of_mem_ofNat (n := n) member
  unfold integer?
  cases negative with
  -- With a sign only the two ways to read a negative integer are left.
  | true =>
    have noDigit : digitIn? 10 '-' = none := by decide
    rw [signed_true] at numeric ⊢
    rw [unsigned?_eq_none numeric List.mem_cons_self noDigit, negative?_minus,
      unsigned?_eq_none numeric List.mem_cons_self noDigit, negative?_minus]
    by_cases small : n ≤ 0x8000000000000000
    · simp [greatestSize, signedInt, small]
    · by_cases wide : n ≤ 0x80000000000000000000000000000000
      · simp [greatestSize, signedInt, small, wide]
      · simp [greatestSize, small, wide]
  -- Without one only the two ways to read a natural number are left.
  | false =>
    obtain ⟨c, rest, digits, first⟩ := exists_ofNat_eq n
    rw [signed_false, unsigned?_ofNat, unsigned?_ofNat, digits, negative?_eq_none first,
      negative?_eq_none first]
    by_cases small : n ≤ 0xffffffffffffffff
    · simp [greatestSize, signedInt, small]
    · by_cases wide : n ≤ 0xffffffffffffffffffffffffffffffff
      · simp [greatestSize, signedInt, small, wide]
      · simp [greatestSize, small, wide]

/-- Digits that are read as an integer have no other meaning. -/
theorem resolve_signed {negative : Bool} {n : Nat} {s : Scalar}
    (read : integer? (signed negative (Digits.ofNat n)) = some s) :
    resolve (signed negative (Digits.ofNat n)) = s := by
  obtain ⟨c, rest, digits, first⟩ := exists_ofNat_eq n
  obtain ⟨d, others, text, start⟩ := exists_signed_eq first rest negative
  rw [digits, text] at read ⊢
  -- Null and the truth values are tried before integers, and do not start with digits.
  unfold resolve
  rw [read, isNull_eq_false start, bool?_eq_none start]
  rfl

/-- An integer is written as its size behind its sign. -/
theorem ofInt_eq_signed (n : Int) : Digits.ofInt n = signed (n < 0) (Digits.ofNat n.natAbs) := by
  simp [Digits.ofInt, signed]

/-- A written integer reads back as that integer. -/
theorem resolve_ofInt {n : Int} (low : -0x8000000000000000 ≤ n) (high : n ≤ 0xffffffffffffffff) :
    resolve (Digits.ofInt n) = .integer n := by
  have value : signedInt (n < 0) n.natAbs = n := by
    simp only [signedInt, decide_eq_true_eq]
    omega
  -- The greatest size depends on the sign, and integers of this range keep to it on either side.
  have small : n.natAbs ≤ greatestSize (n < 0) 64 := by
    simp only [greatestSize, decide_eq_true_eq, Nat.reducePow, Nat.reduceSub]
    split <;> omega
  have read := integer?_signed (n < 0) n.natAbs
  rw [if_pos small, value] at read
  rw [ofInt_eq_signed]
  exact resolve_signed read

/-! ### Decimals -/

/-- How a decimal is set out: with digits around a point, or with an exponent. -/
inductive Spells : List Char → Decimal → Prop where
  | pointed (whole fraction : List Char) (digits : ∀ c ∈ whole ++ fraction, c.isDigit = true)
      (some : whole ≠ []) :
      Spells (whole ++ '.' :: fraction) ⟨Digits.toNat (whole ++ fraction), -fraction.length⟩
  | scaled (whole fraction : List Char) (exponent : Int)
      (digits : ∀ c ∈ whole ++ fraction, c.isDigit = true) (some : whole ≠ []) :
      Spells (whole ++ (if fraction.isEmpty then [] else '.' :: fraction) ++
        'e' :: Digits.ofInt exponent)
        ⟨Digits.toNat (whole ++ fraction), exponent - fraction.length⟩

/-- A text of a decimal is numeric. -/
theorem Spells.isNumeric {cs : List Char} {d : Decimal} (spelled : Spells cs d) :
    ∀ c ∈ cs, IsNumeric c := by
  intro c member
  -- Besides digits a spelling has a point, or the mark of an exponent and what follows it.
  cases spelled with
  | pointed whole fraction digits =>
    simp only [List.mem_append, List.mem_cons] at member digits
    rcases member with member | rfl | member
    · exact .inl (digits c (.inl member))
    · exact .inr (.inr (.inl rfl))
    · exact .inl (digits c (.inr member))
  | scaled whole fraction exponent digits =>
    simp only [List.mem_append, List.mem_cons] at member digits
    rcases member with (member | member) | rfl | member
    · exact .inl (digits c (.inl member))
    · split at member
      · cases member
      · rcases List.mem_cons.mp member with rfl | member
        · exact .inr (.inr (.inl rfl))
        · exact .inl (digits c (.inr member))
    · exact .inr (.inr (.inr rfl))
    · exact isNumeric_of_mem_ofInt member

/-- A text of a decimal has a character that integers do not have. -/
theorem Spells.exists_mark {cs : List Char} {d : Decimal} (spelled : Spells cs d) :
    ∃ c ∈ cs, digitIn? 10 c = none ∧ c.isDigit = false := by
  cases spelled with
  | pointed => exact ⟨'.', by simp, by decide, by decide⟩
  | scaled => exact ⟨'e', by simp, by decide, by decide⟩

/-- A text of a decimal starts with a digit. -/
theorem Spells.exists_eq {cs : List Char} {d : Decimal} (spelled : Spells cs d) :
    ∃ c rest, cs = c :: rest ∧ c.isDigit = true := by
  cases spelled with
  | pointed whole fraction digits some =>
    obtain ⟨c, rest, rfl⟩ := List.exists_cons_of_ne_nil some
    exact ⟨c, _, rfl, digits c (by simp)⟩
  | scaled whole fraction exponent digits some =>
    obtain ⟨c, rest, rfl⟩ := List.exists_cons_of_ne_nil some
    exact ⟨c, _, rfl, digits c (by simp)⟩

/-- The digits of an integer read back as an exponent. -/
theorem exponent?_ofInt (e : Int) : exponent? (Digits.ofInt e) = some e := by
  unfold Digits.ofInt
  split
  case isTrue negative =>
    simp only [exponent?, natIn?_ofNat]
    have value : -(e.natAbs : Int) = e := by omega
    exact congrArg some value
  case isFalse positive =>
    -- Without a sign the text starts with a digit, which is no sign either.
    obtain ⟨c, rest, digits, first⟩ := exists_ofNat_eq e.natAbs
    have read := natIn?_ofNat e.natAbs
    rw [digits] at read ⊢
    unfold exponent?
    split
    case h_1 shape =>
      cases shape
      cases first
    case h_2 shape =>
      cases shape
      cases first
    case h_3 =>
      have value : (e.natAbs : Int) = e := by omega
      rw [read]
      exact congrArg some value

/-- A decimal after its sign. -/
def unsignedDecimal? (negative : Bool) (cs : List Char) : Option Double := do
  let whole := cs.takeWhile Char.isDigit
  let rest := cs.dropWhile Char.isDigit
  let (fraction, rest) := match rest with
    | '.' :: rest => (rest.takeWhile Char.isDigit, rest.dropWhile Char.isDigit)
    | _ => ([], rest)
  guard (!(whole ++ fraction).isEmpty)
  let exponent ← match rest with
    | [] => some 0
    | 'e' :: digits | 'E' :: digits => exponent? digits
    | _ => none
  return Double.ofDecimal negative (Digits.toNat (whole ++ fraction)) (exponent - fraction.length)

/-- A minus sign is taken off; without one, the text begins with a digit. -/
theorem decimal?_signed {c : Char} {rest : List Char} (first : c.isDigit = true)
    (negative : Bool) :
    decimal? (signed negative (c :: rest)) = unsignedDecimal? negative (c :: rest) := by
  cases negative with
  | true => rfl
  | false =>
    unfold decimal? unsignedDecimal?
    split
    rename_i shape
    rw [signed_false] at shape
    -- The text starts with a digit, so that there is no sign to be taken off.
    split at shape
    case h_1 minus =>
      cases minus
      cases first
    case h_2 plus =>
      cases plus
      cases first
    case h_3 =>
      cases shape
      rfl

/-- The text of a decimal, with or without a minus sign, stands for that decimal. -/
theorem Spells.decimal?_eq {cs : List Char} {d : Decimal} (spelled : Spells cs d)
    (negative : Bool) :
    decimal? (signed negative cs) =
      some (Double.ofDecimal negative d.coefficient d.exponent) := by
  have sign : decimal? (signed negative cs) = unsignedDecimal? negative cs := by
    obtain ⟨c, rest, rfl, first⟩ := spelled.exists_eq
    exact decimal?_signed first negative
  rw [sign]
  unfold unsignedDecimal?
  cases spelled with
  -- The digits up to the point are the whole part, and those behind it the fraction.
  | pointed whole fraction digits some =>
    obtain ⟨wholeDigits, fractionDigits⟩ := List.forall_mem_append.mp digits
    rw [List.takeWhile_append_of_pos wholeDigits, List.dropWhile_append_of_pos wholeDigits]
    simp [List.takeWhile_eq_self_iff.mpr fractionDigits,
      List.dropWhile_eq_nil_iff.mpr fractionDigits, some]
  -- The exponent mark ends the digits, with a point before it or without.
  | scaled whole fraction exponent digits some =>
    obtain ⟨wholeDigits, fractionDigits⟩ := List.forall_mem_append.mp digits
    rw [List.append_assoc, List.takeWhile_append_of_pos wholeDigits,
      List.dropWhile_append_of_pos wholeDigits]
    cases fraction with
    | nil => simp [exponent?_ofInt, some]
    | cons c rest =>
      obtain ⟨first, more⟩ := List.forall_mem_cons.mp fractionDigits
      simp [first, List.takeWhile_append_of_pos more, List.dropWhile_append_of_pos more,
        exponent?_ofInt, some]

/-- A text of a decimal is numeric with its sign. -/
theorem Spells.signed_isNumeric {cs : List Char} {d : Decimal} (spelled : Spells cs d)
    (negative : Bool) : ∀ c ∈ signed negative cs, IsNumeric c :=
  isNumeric_signed negative spelled.isNumeric

/-- A text of a decimal is no string of digits. -/
theorem Spells.hasLeadingZero_eq {cs : List Char} {d : Decimal} (spelled : Spells cs d)
    (negative : Bool) : hasLeadingZero (signed negative cs) = false := by
  -- A leading zero counts only where all characters are digits.
  have mixed : cs.all Char.isDigit = false := by
    obtain ⟨c, member, _, other⟩ := spelled.exists_mark
    rw [List.all_eq_false]
    exact ⟨c, member, by simp [other]⟩
  cases negative with
  | true => simp [hasLeadingZero, mixed]
  | false =>
    -- The text starts with a digit, so that there is no sign to be looked behind.
    obtain ⟨c, rest, rfl, first⟩ := spelled.exists_eq
    rw [signed_false]
    unfold hasLeadingZero
    split
    case h_1 minus =>
      cases minus
      cases first
    case h_2 plus =>
      cases plus
      cases first
    case h_3 => simp [mixed]

/-- A text of a decimal is no integer. -/
theorem Spells.integer?_eq_none {cs : List Char} {d : Decimal} (spelled : Spells cs d)
    (negative : Bool) : integer? (signed negative cs) = none := by
  -- A decimal has a point or an exponent mark, which is no digit.
  obtain ⟨c, member, other, _⟩ := spelled.exists_mark
  have unsigned (bound : Nat) : unsigned? bound (signed negative cs) = none := by
    refine unsigned?_eq_none (spelled.signed_isNumeric negative) (c := c) ?_ other
    cases negative <;> simp [member]
  have signed (bound : Nat) : negative? bound (signed negative cs) = none := by
    cases negative with
    | true =>
      simp [negative?, based?_eq_none spelled.isNumeric, natIn?_eq_none member other]
    | false =>
      obtain ⟨first, rest, rfl, digit⟩ := spelled.exists_eq
      exact negative?_eq_none digit
  unfold integer?
  rw [unsigned, signed, unsigned, signed]
  rfl

/-- A text that starts with a digit behind its sign, and that is a finite double and no integer,
stands for that double. -/
theorem resolve_of_decimal {c : Char} {rest : List Char} {negative : Bool} {x : Double}
    (first : c.isDigit = true) (numeric : ∀ d ∈ signed negative (c :: rest), IsNumeric d)
    (noInteger : integer? (signed negative (c :: rest)) = none)
    (noZero : hasLeadingZero (signed negative (c :: rest)) = false)
    (read : decimal? (signed negative (c :: rest)) = some x) (finite : x.isFinite = true) :
    resolve (signed negative (c :: rest)) = .float x := by
  have float : float? (signed negative (c :: rest)) = some x := by
    -- The spellings of infinity and of no number have a point where a digit would be.
    have noWord (words : List (List Char)) (pointed : ∀ word ∈ words, word.head? = some '.' ∨
        word.head? = some '-' ∧ word.tail.head? = some '.') :
        signed negative (c :: rest) ∉ words := by
      intro member
      have digit : c ≠ '.' ∧ c ≠ '-' := by constructor <;> rintro rfl <;> cases first
      have place := pointed _ member
      cases negative <;> simp [digit] at place
    unfold float?
    dsimp only
    rw [dropPlus_eq numeric, if_neg (by simp), if_neg (noWord _ (by decide)),
      if_neg (noWord _ (by decide)), if_neg (noWord _ (by decide)), read]
    simp [finite]
  -- Neither null nor a truth value starts with a digit or a sign.
  obtain ⟨d, others, text, start⟩ := exists_signed_eq first rest negative
  unfold resolve
  rw [noInteger, noZero, float, text, isNull_eq_false start, bool?_eq_none start]
  rfl

/-- A text of a decimal that has a finite double stands for that double. -/
theorem Spells.resolve_eq {cs : List Char} {d : Decimal} (spelled : Spells cs d) (negative : Bool)
    (finite : (Double.ofDecimal negative d.coefficient d.exponent).isFinite = true) :
    resolve (signed negative cs) =
      .float (Double.ofDecimal negative d.coefficient d.exponent) := by
  have numeric := spelled.signed_isNumeric negative
  have noInteger := spelled.integer?_eq_none negative
  have noZero := spelled.hasLeadingZero_eq negative
  have read := spelled.decimal?_eq negative
  obtain ⟨c, rest, rfl, first⟩ := spelled.exists_eq
  exact resolve_of_decimal first numeric noInteger noZero read finite

/-! ### Doubles -/

section

variable {cs : List Char} {coefficient : Nat} {exponent : Int}

/-- Zeros are digits. -/
theorem isDigit_of_mem_zeros {count : Nat} {c : Char} (member : c ∈ List.replicate count '0') :
    c.isDigit = true := by
  rw [List.eq_of_mem_replicate member]
  decide

/-- Zeros between the point and the digits make up for an exponent below the digits. -/
theorem spells_zerosBefore (digits : ∀ c ∈ cs, c.isDigit = true)
    (value : Digits.toNat cs = coefficient) (small : (cs.length : Int) + exponent ≤ 0) :
    Spells (['0'] ++ '.' :: (List.replicate (-(cs.length + exponent)).toNat '0' ++ cs))
      ⟨coefficient, exponent⟩ := by
  -- Zeros in front change no value, and the places behind the point give the exponent.
  have same : (⟨Digits.toNat (['0'] ++ (List.replicate (-(cs.length + exponent)).toNat '0' ++ cs)),
      -((List.replicate (-(cs.length + exponent)).toNat '0' ++ cs).length : Int)⟩ : Decimal) =
      ⟨coefficient, exponent⟩ := by
    rw [Decimal.mk.injEq, Digits.toNat_append, Digits.toNat_append, Digits.toNat_zeros, value]
    simp [Digits.toNat, Digits.value]
    omega
  refine same ▸ .pointed ['0'] _ ?_ (by simp)
  exact List.forall_mem_append.mpr ⟨List.forall_mem_singleton.mpr rfl,
    List.forall_mem_append.mpr ⟨fun _ => isDigit_of_mem_zeros, digits⟩⟩

/-- Zeros between the digits and the point, with another one behind it, change the decimal but not
its value. -/
theorem exists_spells_zerosAfter {x : Double}
    (held : x.interval.holds ⟨coefficient, exponent⟩ = true)
    (digits : ∀ c ∈ cs, c.isDigit = true) (value : Digits.toNat cs = coefficient) (some : cs ≠ [])
    (large : cs.length ≤ ((cs.length : Int) + exponent).toNat) :
    ∃ e, Spells (cs ++ List.replicate (((cs.length : Int) + exponent).toNat - cs.length) '0' ++
      '.' :: ['0']) e ∧ x.interval.holds e = true := by
  have written := List.length_pos_iff.mpr some
  have shift : ((cs.length : Int) + exponent).toNat - cs.length = exponent.toNat := by omega
  have none : (-exponent).toNat = 0 := by omega
  refine ⟨_, .pointed (cs ++ List.replicate _ '0') ['0'] ?_ (by simp [some]), ?_⟩
  · exact List.forall_mem_append.mpr ⟨List.forall_mem_append.mpr ⟨digits,
      fun _ => isDigit_of_mem_zeros⟩, List.forall_mem_singleton.mpr rfl⟩
  -- The zero behind the point scales both sides of the fraction by ten.
  · refine (Double.Interval.holds_of_scaled (show 0 < 10 by decide) ?_ ?_).trans held
    · simp only [Decimal.numerator, Digits.toNat_append, Digits.toNat_zeros, value, shift]
      simp [Digits.toNat, Digits.value]
      ring
    · simp [Decimal.denominator, none]

/-- A point among the digits leaves as many behind it as the exponent counts. -/
theorem spells_pointWithin (digits : ∀ c ∈ cs, c.isDigit = true)
    (value : Digits.toNat cs = coefficient) (large : 0 < (cs.length : Int) + exponent)
    (small : ((cs.length : Int) + exponent).toNat < cs.length) :
    Spells (cs.take ((cs.length : Int) + exponent).toNat ++
      '.' :: cs.drop ((cs.length : Int) + exponent).toNat) ⟨coefficient, exponent⟩ := by
  -- The digits on both sides are those of the coefficient, and those behind count as the exponent.
  have same : (⟨Digits.toNat (cs.take ((cs.length : Int) + exponent).toNat ++
      cs.drop ((cs.length : Int) + exponent).toNat),
      -((cs.drop ((cs.length : Int) + exponent).toNat).length : Int)⟩ : Decimal) =
      ⟨coefficient, exponent⟩ := by
    rw [Decimal.mk.injEq, List.take_append_drop, value, List.length_drop]
    exact ⟨rfl, by omega⟩
  refine same ▸ .pointed _ _ ?_ ?_
  · rw [List.take_append_drop]
    exact digits
  · rw [← List.length_pos_iff, List.length_take]
    omega

end

/-- Digits with a point among them or beside them spell a decimal of the interval. -/
theorem exists_spells_positionalText {x : Double} {d : Decimal} (held : x.interval.holds d = true) :
    ∃ e, Spells (Double.yamlLayout.positionalText (Digits.ofNat d.coefficient)
      ((Digits.ofNat d.coefficient).length + d.exponent)) e ∧ x.interval.holds e = true := by
  have digits (c : Char) (member : c ∈ Digits.ofNat d.coefficient) : c.isDigit = true :=
    Digits.isDigit_of_mem_ofNat member
  have value := Digits.toNat_ofNat d.coefficient
  unfold Double.Layout.positionalText
  -- The point stands before the digits, behind them or among them.
  split
  case isTrue small => exact ⟨d, spells_zerosBefore digits value small, held⟩
  case isFalse large =>
    split
    case isTrue whole =>
      exact exists_spells_zerosAfter held digits value (Digits.ofNat_ne_nil d.coefficient) whole
    case isFalse mixed =>
      exact ⟨d, spells_pointWithin digits value (by omega) (by omega), held⟩

/-- Digits with an exponent spell a decimal of the interval. -/
theorem exists_spells_scientificText {x : Double} {d : Decimal} (held : x.interval.holds d = true) :
    ∃ e, Spells (Double.yamlLayout.scientificText (Digits.ofNat d.coefficient)
      ((Digits.ofNat d.coefficient).length + d.exponent)) e ∧ x.interval.holds e = true := by
  obtain ⟨coefficient, exponent⟩ := d
  dsimp only at *
  have digits (c : Char) := Digits.isDigit_of_mem_ofNat (n := coefficient) (c := c)
  have value := Digits.toNat_ofNat coefficient
  obtain ⟨first, rest, written⟩ := List.exists_cons_of_ne_nil (Digits.ofNat_ne_nil coefficient)
  rw [written] at digits value ⊢
  -- The point after the first digit is made up for by the exponent.
  have same : (⟨Digits.toNat ([first] ++ rest),
      ((first :: rest).length : Int) + exponent - 1 - rest.length⟩ : Decimal) =
      ⟨coefficient, exponent⟩ := by
    rw [Decimal.mk.injEq, List.length_cons]
    exact ⟨value, by omega⟩
  refine ⟨_, ?_, same ▸ held⟩
  have spelled := Spells.scaled [first] rest (((first :: rest).length : Int) + exponent - 1)
    digits (by simp)
  unfold Double.Layout.scientificText
  simpa [Double.yamlLayout] using spelled

/-- The size of a finite double is spelled as a decimal that reads back as the double. -/
theorem exists_spells_sizeText {x : Double} (finite : x.isFinite = true) :
    ∃ d, Spells (Double.yamlLayout.sizeText x) d ∧ ∀ negative,
      Double.ofDecimal negative d.coefficient d.exponent =
        Double.ofMagnitude negative x.magnitude := by
  unfold Double.Layout.sizeText
  dsimp only
  split
  -- Zero is written with a zero on each side of the point.
  case isTrue zero =>
    refine ⟨_, .pointed ['0'] ['0'] (by simp) (by simp), fun negative => ?_⟩
    have none : x.magnitude = 0 := by simpa [Double.isZero] using zero
    rw [none]
    rfl
  case isFalse nonzero =>
    rw [Bool.not_eq_true] at nonzero
    -- Every decimal of the interval is read as the double, in whichever layout it is written.
    have held := Double.holds_shortest nonzero Double.yamlLayout.tie
    split
    case isTrue =>
      obtain ⟨d, spelled, held⟩ := exists_spells_positionalText held
      exact ⟨d, spelled, Double.ofDecimal_of_holds finite nonzero held⟩
    case isFalse =>
      obtain ⟨d, spelled, held⟩ := exists_spells_scientificText held
      exact ⟨d, spelled, Double.ofDecimal_of_holds finite nonzero held⟩

/-- The text of a double reads back as the same double. -/
theorem resolve_chars {x : Double} (number : x.isNaN = false) :
    resolve (Double.yamlLayout.chars x) = .float x := by
  have range : x.magnitude ≤ Double.infinityBits := by simpa [Double.isNaN] using number
  have whole := Double.ofMagnitude_isNegative x
  unfold Double.Layout.chars
  rw [number]
  rcases range.lt_or_eq with below | infinite
  · -- A finite double reads back through the decimal that its text spells.
    have finite : x.isFinite = true := by simpa [Double.isFinite] using below
    have bounded : x.isInfinite = false := by simp [Double.isInfinite, below.ne]
    obtain ⟨d, spelled, read⟩ := exists_spells_sizeText finite
    have value : Double.ofDecimal x.isNegative d.coefficient d.exponent = x := by rw [read, whole]
    have text := spelled.resolve_eq x.isNegative (by rwa [value])
    rw [value] at text
    simpa [bounded, signed] using text
  -- The two infinities are words of their own.
  · rw [infinite] at whole
    generalize x.isNegative = negative at whole
    subst whole
    cases negative <;> rfl

end ToolPolicy.Yaml
