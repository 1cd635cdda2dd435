import ToolPolicy.Node.Text
import ToolPolicy.Proofs.Text.Digits

/-! Display texts: which values have one, and what it starts with. -/

namespace ToolPolicy.Node

/-- Every double has a display text. -/
theorem displayLayout_chars_ne_nil (x : Double) : Double.displayLayout.chars x ≠ [] := by
  unfold Double.Layout.chars
  -- Only the text of the size depends on the value; the others are fixed words.
  have size := Double.displayLayout.sizeText_ne_nil x
  -- What is no number has a word of its own.
  split
  · decide
  · dsimp only
    split
    · simp
    · split
      · decide
      · exact size

/-- A value that counts as present has a display text. -/
theorem text_ne_empty {n : Node} (present : n.isPresent = true) : n.text ≠ "" := by
  -- Strings are shown as they are, so that it matters here that the empty one does not count.
  cases n with
  | null => cases present
  | bool b =>
    cases b with
    | false => cases present
    | true => decide
  | int i => simp [text, Digits.int, Digits.ofInt_ne_nil]
  | float x => simp [text, Double.Layout.text, displayLayout_chars_ne_nil]
  | string s => simpa [isPresent, text] using present
  | sequence items => simp [text]
  | mapping entries => simp [text]

/-- The size of a double is shown in digits and points. -/
theorem isDigit_or_point_of_mem_sizeText {x : Double} {c : Char}
    (member : c ∈ Double.displayLayout.sizeText x) : c.isDigit = true ∨ c = '.' := by
  have digits (n : Nat) (d : Char) (written : d ∈ Digits.ofNat n) : d.isDigit = true ∨ d = '.' :=
    .inl (Digits.isDigit_of_mem_ofNat written)
  unfold Double.Layout.sizeText at member
  dsimp only at member
  generalize (Double.shortest Double.displayLayout.tie x).coefficient = coefficient at member
  split at member
  · -- Zero is its own digit.
    simp only [Double.displayLayout, Bool.false_eq_true, if_false, List.mem_singleton] at member
    exact .inl (member ▸ rfl)
  · -- Every other size is positional: zeros fill up what the digits leave.
    have positional (point : Int) : Double.displayLayout.positional point = true := rfl
    rw [if_pos (positional _)] at member
    -- The point stands before all digits, behind all of them, or between two.
    unfold Double.Layout.positionalText at member
    split at member
    · simp only [List.mem_append, List.mem_cons, List.mem_replicate] at member
      rcases member with (rfl | rfl | ⟨-, rfl⟩) | written
      · exact .inl rfl
      · exact .inr rfl
      · exact .inl rfl
      · exact digits _ c written
    · split at member
      · simp only [Double.displayLayout, Bool.false_eq_true, if_false, List.append_nil,
          List.mem_append, List.mem_replicate] at member
        rcases member with written | ⟨-, rfl⟩
        · exact digits _ c written
        · exact .inl rfl
      · rcases List.mem_append.mp member with early | later
        · exact digits _ c (List.mem_of_mem_take early)
        · rcases List.mem_cons.mp later with rfl | late
          · exact .inr rfl
          · exact digits _ c (List.mem_of_mem_drop late)

/-- No number is shown with an angle bracket. -/
theorem angle_not_mem_chars (x : Double) : '<' ∉ Double.displayLayout.chars x := by
  have size : '<' ∉ Double.displayLayout.sizeText x := fun member =>
    absurd (isDigit_or_point_of_mem_sizeText member) (by decide)
  unfold Double.Layout.chars
  -- Only the text of the size depends on the value; the others are fixed words.
  split
  · decide
  · dsimp only
    have whole : '<' ∉ if x.isInfinite = true then Double.displayLayout.infinityText.toList
        else Double.displayLayout.sizeText x := by
      split
      · decide
      · exact size
    split
    · simpa using whole
    · exact whole

/-- Only a string is shown with an angle bracket in front. -/
theorem eq_string_of_text {n : Node} (front : n.text.toList.head? = some '<') :
    n = string n.text := by
  have angle : '<' ∈ n.text.toList := List.mem_of_mem_head? front
  -- All other values begin with a letter, a digit, a sign or a bracket.
  cases n with
  | null => simp [text] at front
  | bool b => cases b <;> simp [text] at front
  | int i =>
    have inside : '<' ∈ Digits.ofInt i.toInt := by
      simpa [text, Digits.int] using angle
    unfold Digits.ofInt at inside
    split at inside
    · rcases List.mem_cons.mp inside with minus | digit
      · cases minus
      · exact absurd (Digits.isDigit_of_mem_ofNat digit) (by decide)
    · exact absurd (Digits.isDigit_of_mem_ofNat inside) (by decide)
  | float x =>
    have inside : '<' ∈ Double.displayLayout.chars x := by
      simpa [text, Double.Layout.text] using angle
    exact absurd inside (angle_not_mem_chars x)
  | string s => rw [text_string]
  | sequence items => simp [text] at front
  | mapping entries => simp [text] at front

end ToolPolicy.Node
