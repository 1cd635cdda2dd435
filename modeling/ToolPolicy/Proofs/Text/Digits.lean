import Mathlib.Tactic.Ring
import ToolPolicy.Text.Digits

/-! The digits of numbers: which characters they are, and what runs of them stand for. -/

namespace ToolPolicy.Digits

/-- A digit is one of ten characters. -/
theorem isDigit_digit (n : Nat) : (digit n).isDigit = true := by
  have small := Nat.mod_lt n (show 0 < 10 by decide)
  unfold digit
  generalize n % 10 = last at *
  rcases last with _ | _ | _ | _ | _ | _ | _ | _ | _ | _ | last
  all_goals first | rfl | omega

/-- The codes of digits follow one another. -/
theorem toNat_of_isDigit {c : Char} (digit : c.isDigit = true) : 48 ≤ c.toNat ∧ c.toNat ≤ 57 := by
  simp only [Char.isDigit, Bool.and_eq_true, decide_eq_true_eq, UInt32.le_iff_toNat_le] at digit
  exact digit

/-- A natural number is written in digits. -/
theorem isDigit_of_mem_ofNat {n : Nat} {c : Char} (h : c ∈ ofNat n) : c.isDigit = true := by
  induction n using Nat.strongRecOn with
  | _ n ih =>
    rw [ofNat] at h
    split at h
    · rw [List.mem_singleton] at h
      exact h ▸ isDigit_digit n
    -- The last digit stands behind those of the tenth part, which is smaller.
    · rw [List.mem_append, List.mem_singleton] at h
      rcases h with earlier | rfl
      · exact ih (n / 10) (by omega) earlier
      · exact isDigit_digit n

/-- Only zero is written with a leading zero. -/
theorem head?_ofNat {n : Nat} (positive : n ≠ 0) : (ofNat n).head? ≠ some '0' := by
  induction n using Nat.strongRecOn with
  | _ n ih =>
    rw [ofNat]
    split
    -- A single digit that is a zero stands for zero.
    · rename_i small
      intro h
      have zero : digit n = '0' := by simpa using h
      have value := value_digit small
      rw [zero] at value
      exact positive value.symm
    -- The first digit is that of the quotient by ten, which is positive as well.
    · have earlier := ih (n / 10) (by omega) (by omega)
      obtain ⟨first, rest, digits⟩ := List.exists_cons_of_ne_nil (ofNat_ne_nil (n / 10))
      rw [digits] at earlier ⊢
      exact earlier

/-- A run of digits continues another one. -/
theorem toNat_append (front back : List Char) :
    toNat (front ++ back) = toNat front * 10 ^ back.length + toNat back := by
  -- Reading goes on from the number before with the digits that follow.
  have continued (cs : List Char) (n : Nat) :
      cs.foldl (fun n c => 10 * n + value c) n = n * 10 ^ cs.length + toNat cs := by
    induction cs generalizing n with
    | nil => simp [toNat]
    | cons c rest ih =>
      rw [toNat, List.foldl_cons, List.foldl_cons, ih, ih, List.length_cons]
      ring
  unfold toNat
  rw [List.foldl_append, continued]
  rfl

/-- Zeros stand for zero. -/
theorem toNat_zeros (count : Nat) : toNat (List.replicate count '0') = 0 := by
  induction count with
  | zero => rfl
  | succ count ih =>
    rw [List.replicate_succ', toNat_append, ih]
    rfl

/-- A positive number with zeros behind it is a multiple of a power of ten. -/
theorem ofNat_mul_pow {n : Nat} (positive : 0 < n) (count : Nat) :
    ofNat (n * 10 ^ count) = ofNat n ++ List.replicate count '0' := by
  induction count with
  | zero => simp
  | succ count ih =>
    have large : 0 < n * 10 ^ count := Nat.mul_pos positive (Nat.pow_pos (by decide))
    have next : n * 10 ^ (count + 1) = 10 * (n * 10 ^ count) := by ring
    have last : digit (10 * (n * 10 ^ count)) = '0' := by simp [digit]
    -- The last digit is the zero that the factor ten adds.
    rw [next, ofNat, if_neg (by omega), last, Nat.mul_div_cancel_left _ (by decide), ih,
      List.append_assoc, ← List.replicate_succ']

end ToolPolicy.Digits
