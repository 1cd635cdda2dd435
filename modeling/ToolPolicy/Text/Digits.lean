/-! Decimal digits of natural numbers and integers, written without leading zeros. -/

namespace ToolPolicy.Digits

/-- The character of a single digit. -/
def digit (n : Nat) : Char := Char.ofNat (48 + n % 10)

/-- The digits of a natural number, most significant first. -/
def ofNat (n : Nat) : List Char :=
  if n < 10 then [digit n] else ofNat (n / 10) ++ [digit n]

/-- A minus sign precedes the digits of a negative integer. -/
def ofInt (n : Int) : List Char := if n < 0 then '-' :: ofNat n.natAbs else ofNat n.natAbs

/-- The value of a digit character; other characters give whatever their code does. -/
def value (c : Char) : Nat := c.toNat - 48

/-- The number that a run of digits stands for. -/
def toNat (cs : List Char) : Nat := cs.foldl (fun n c => 10 * n + value c) 0

/-- The number that a run of digits stands for, before which a plus sign may stand. -/
def unsigned? (cs : List Char) : Option Nat :=
  let digits := match cs with
    | '+' :: rest => rest
    | cs => cs
  if digits.isEmpty || !digits.all Char.isDigit then none else some (toNat digits)

/-- The text of a natural number. -/
def nat (n : Nat) : String := String.ofList (ofNat n)

/-- The text of an integer. -/
def int (n : Int) : String := String.ofList (ofInt n)

/-- Writing and reading a single digit gives the digit. -/
theorem value_digit {n : Nat} (h : n < 10) : value (digit n) = n := by
  have cases : n = 0 ∨ n = 1 ∨ n = 2 ∨ n = 3 ∨ n = 4 ∨ n = 5 ∨ n = 6 ∨ n = 7 ∨ n = 8 ∨ n = 9 := by
    omega
  rcases cases with rfl | rfl | rfl | rfl | rfl | rfl | rfl | rfl | rfl | rfl <;> rfl

/-- A number has at least one digit. -/
theorem ofNat_ne_nil (n : Nat) : ofNat n ≠ [] := by
  rw [ofNat]
  split
  · simp
  · simp

/-- An integer has at least one digit. -/
theorem ofInt_ne_nil (n : Int) : ofInt n ≠ [] := by
  unfold ofInt
  split
  · simp
  · exact ofNat_ne_nil n.natAbs

/-- Reading the digits of a number gives the number. -/
theorem toNat_ofNat (n : Nat) : toNat (ofNat n) = n := by
  induction n using Nat.strongRecOn with
  | _ n ih =>
    -- The last digit is the remainder, and those before it are of the tenth part.
    have last : value (digit n) = n % 10 := by
      have same : digit n = digit (n % 10) := by simp [digit]
      rw [same, value_digit (Nat.mod_lt _ (by decide))]
    rw [ofNat]
    split
    · simp [toNat, last]
      omega
    · rename_i large
      have shorter := ih (n / 10) (by omega)
      unfold toNat at shorter ⊢
      rw [List.foldl_append, shorter]
      simp only [List.foldl_cons, List.foldl_nil, last]
      omega

end ToolPolicy.Digits
