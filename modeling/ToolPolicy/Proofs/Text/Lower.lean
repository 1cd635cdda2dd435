import ToolPolicy.Proofs.Text.Utf8
import ToolPolicy.Text.Blank
import ToolPolicy.Text.Lower

/-! Lower-case forms are their own lower-case forms, and no character becomes a blank in them. -/

namespace ToolPolicy.Lower

namespace Run

/-- The least code that a run leads to. -/
def lowest (r : Run) : Nat := (r.first + r.shift).toNat

/-- The greatest code that a run leads to. -/
def highest (r : Run) : Nat := (r.last + r.shift).toNat

/-- A run leads to no code from the first one to the last one. -/
def avoids (r : Run) (first last : Nat) : Bool := Nat.blt r.highest first || Nat.blt last r.lowest

/-- A run leads to no code of another run: it leads elsewhere, or one has the even codes and the
other one the odd codes. -/
def misses (r other : Run) : Bool :=
  r.avoids other.first other.last ||
    (other.stride == 2 && (r.stride == 2 || r.first == r.last) &&
      (r.lowest + other.first) % 2 == 1)

/-- A run leads to characters, none of them blank, and none with a lower-case form of its own. -/
def isSettled (r : Run) : Bool :=
  0 ≤ r.first + r.shift && r.highest ≤ 0x10ffff && r.avoids 0xd800 0xdfff && r.avoids 0x130 0x130 &&
    (Blank.ranges.all fun (first, last) => r.avoids first last) && runs.all r.misses

end Run

/-- The table leads out of itself. -/
theorem runs_isSettled : runs.all Run.isSettled = true := by decide +kernel

section

variable {r : Run} {c : Char} (covers : r.covers c = true)
include covers

/-- What a run leads to is not among the codes that it avoids. -/
theorem Run.outside_of_avoids {first last : Nat} (avoids : r.avoids first last = true) :
    (c.toNat + r.shift).toNat < first ∨ last < (c.toNat + r.shift).toNat := by
  simp only [Run.covers, Bool.and_eq_true, decide_eq_true_eq] at covers
  simp only [Run.avoids, Run.lowest, Run.highest, Bool.or_eq_true, Nat.blt_eq] at avoids
  omega

/-- A run does not cover what another one leads to that misses it. -/
theorem Run.not_covers_of_misses (positive : 0 ≤ r.first + r.shift) {other : Run}
    (misses : r.misses other = true) {d : Char}
    (leads : d.toNat = (c.toNat + r.shift).toNat) : other.covers d = false := by
  rw [Bool.eq_false_iff]
  intro covered
  simp only [Run.misses, Bool.or_eq_true] at misses
  -- One run misses another in one of two ways: by its range or by the parity of its codes.
  rcases misses with avoids | parity
  · have outside := Run.outside_of_avoids covers avoids
    simp only [Run.covers, Bool.and_eq_true, decide_eq_true_eq] at covered
    omega
  · simp only [Run.covers, Bool.and_eq_true, decide_eq_true_eq, beq_iff_eq] at covers covered
    simp only [Bool.and_eq_true, Bool.or_eq_true, beq_iff_eq, Run.lowest] at parity
    obtain ⟨⟨even, single⟩, odd⟩ := parity
    rw [even] at covered
    rcases single with even | single
    · rw [even] at covers
      omega
    · omega

end

/-- Characters that no run covers are their own lower-case forms. -/
theorem ofChar_of_not_covers {c : Char} (undotted : c ≠ '\u0130')
    (uncovered : ∀ r ∈ runs, r.covers c = false) : ofChar c = [c] := by
  have none : runs.find? (·.covers c) = none := by
    rw [List.find?_eq_none]
    intro r member
    simp [uncovered r member]
  rw [ofChar, if_neg undotted, none]

/-- What a run leads to is its own lower-case form and no blank. -/
theorem settled_of_covers {r : Run} (member : r ∈ runs) {c : Char} (covers : r.covers c = true)
    {d : Char} (leads : d = Char.ofNat (c.toNat + r.shift).toNat) :
    ofChar d = [d] ∧ Blank.isBlank d = false := by
  have settled := List.all_eq_true.mp runs_isSettled r member
  simp only [Run.isSettled, Bool.and_eq_true, decide_eq_true_eq, List.all_eq_true] at settled
  obtain ⟨⟨⟨⟨⟨positive, small⟩, scalar⟩, undotted⟩, unblank⟩, misses⟩ := settled
  -- The code that is led to is no surrogate, so that the character has it.
  have code : d.toNat = (c.toNat + r.shift).toNat := by
    have outside := Run.outside_of_avoids covers scalar
    have valid : (c.toNat + r.shift).toNat.isValidChar := by
      simp only [Run.covers, Bool.and_eq_true, decide_eq_true_eq] at covers
      simp only [Run.highest] at small
      simp only [Nat.isValidChar]
      omega
    rw [leads]
    exact Utf8.toNat_ofNat valid
  -- Runs lead to characters that are covered by none, and are not blank either.
  constructor
  · refine ofChar_of_not_covers ?_ fun other among =>
      Run.not_covers_of_misses covers positive (misses other among) code
    rintro rfl
    -- The dotted capital has a lower case of its own, so that it is avoided as well.
    have outside := Run.outside_of_avoids covers undotted
    rw [← code] at outside
    revert outside
    decide
  · rw [Blank.isBlank, List.any_eq_false]
    intro range among
    have outside := Run.outside_of_avoids covers (unblank range among)
    simp only [Bool.and_eq_true, decide_eq_true_eq, code]
    omega

/-- A lower-case form is the character itself, or settled. -/
theorem settled_of_mem_ofChar {c d : Char} (member : d ∈ ofChar c) :
    d = c ∧ ofChar c = [c] ∨ ofChar d = [d] ∧ Blank.isBlank d = false := by
  by_cases dotted : c = '\u0130'
  · subst dotted
    -- The dotted capital is the only character with two characters in its lower case.
    have forms : ofChar '\u0130' = ['i', '\u0307'] := rfl
    rw [forms, List.mem_cons, List.mem_singleton] at member
    rcases member with rfl | rfl
    · exact .inr ⟨rfl, rfl⟩
    · exact .inr ⟨rfl, rfl⟩
  · cases found : runs.find? (·.covers c) with
    | none =>
      have own : ofChar c = [c] := by rw [ofChar, if_neg dotted, found]
      rw [own, List.mem_singleton] at member
      exact .inl ⟨member, own⟩
    | some r =>
      rw [ofChar, if_neg dotted, found, List.mem_singleton] at member
      exact .inr (settled_of_covers (List.mem_of_find?_eq_some found)
        (by simpa using List.find?_some found) member)

/-- Lower case is its own lower case. -/
theorem ofChar_of_mem_ofChar {c d : Char} (member : d ∈ ofChar c) : ofChar d = [d] := by
  rcases settled_of_mem_ofChar member with ⟨rfl, own⟩ | ⟨own, -⟩
  · exact own
  · exact own

/-- No blank comes of a character that is none. -/
theorem isBlank_of_mem_ofChar {c d : Char} (visible : Blank.isBlank c = false)
    (member : d ∈ ofChar c) : Blank.isBlank d = false := by
  rcases settled_of_mem_ofChar member with ⟨rfl, -⟩ | ⟨-, unblank⟩
  · exact visible
  · exact unblank

end ToolPolicy.Lower
