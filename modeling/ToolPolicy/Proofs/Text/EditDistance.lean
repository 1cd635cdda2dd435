import ToolPolicy.Text.EditDistance

/-! A text is at least as many edits away as it has characters from every text with which it shares
no character: none of its characters can stay. -/

namespace ToolPolicy.EditDistance

variable {left right : List Char}

/-- What holds at the start of a walk over the places of a text, and is handed on by every step,
holds at the end. -/
theorem foldl_zipIdx_induct {β : Type} {cs : List Char} {f : β → Char × Nat → β}
    (P : Nat → β → Prop) {b : β} (first : P 0 b)
    (step : ∀ k c b, c ∈ cs → k < cs.length → P k b → P (k + 1) (f b (c, k))) :
    P cs.length (cs.zipIdx.foldl f b) := by
  -- The places are counted from any number on, up to the length of the text.
  have general (rest : List Char) (within : ∀ c ∈ rest, c ∈ cs) (k : Nat) (b : β)
      (remaining : k + rest.length = cs.length) (here : P k b) :
      P cs.length ((rest.zipIdx k).foldl f b) := by
    induction rest generalizing k b with
    | nil =>
      rw [List.length_nil, Nat.add_zero] at remaining
      exact remaining ▸ here
    | cons c rest ih =>
      rw [List.length_cons] at remaining
      obtain ⟨onText, others⟩ := List.forall_mem_cons.mp within
      rw [List.zipIdx_cons, List.foldl_cons]
      exact ih others (k + 1) _ (by omega) (step k c b onText (by omega) here)
  exact general cs (fun _ member => member) 0 b (Nat.zero_add _) first

/-- A character that is not there has no last place. -/
theorem lastPlace_eq_zero {cs : List Char} {c : Char} (absent : c ∉ cs) : lastPlace cs c = 0 := by
  -- The walk would move on from zero only at an equal character.
  refine foldl_zipIdx_induct (fun _ place => place = 0) rfl fun k d place member zero => ?_
  have differs : (d == c) = false := by
    rw [beq_eq_false_iff_ne]
    rintro rfl
    exact absent member
  simp [differs]

/-- No distance of a row is below a number. -/
def AtLeast (n : Nat) (row : List Nat) : Prop := ∀ entry ∈ row, n ≤ entry

/-- What is read from a row inside of it is not below the number either. -/
theorem AtLeast.le_getD {n column : Nat} {row : List Nat} (least : AtLeast n row)
    (inside : column < row.length) : n ≤ row[column]?.getD 0 := by
  rw [List.getElem?_eq_getElem inside, Option.getD_some]
  exact least _ (List.getElem_mem inside)

/-- The next entry counts one edit more than those that it is made of, as its two characters differ
and no transposition pairs them. -/
theorem le_nextEntry (apart : ∀ c ∈ left, c ∉ right) (older : Rows) {newest row : List Nat}
    {i j : Nat} {c d : Char} (onLeft : c ∈ left) (onRight : d ∈ right) (least : AtLeast i newest)
    (wide : j + 1 < newest.length) (leastHere : AtLeast (i + 1) row) (begun : j < row.length) :
    i + 1 ≤ nextEntry left right (newest :: older) row (i + 1) (j + 1) c d := by
  -- A transposition would need an earlier place of the character, and there is none.
  have unpaired : lastPlace (left.take i) d = 0 :=
    lastPlace_eq_zero fun early => apart d (List.mem_of_mem_take early) onRight
  have differ : (c == d) = false := by
    rw [beq_eq_false_iff_ne]
    rintro rfl
    exact apart c onLeft onRight
  -- Each of the three neighbours costs one edit more, and the one on the diagonal as well, since
  -- the characters differ.
  have above : i ≤ newest[j + 1]?.getD 0 := least.le_getD wide
  have diagonal : i ≤ newest[j]?.getD 0 := least.le_getD (by omega)
  have beside : i + 1 ≤ row[j]?.getD 0 := leastHere.le_getD begun
  simp only [nextEntry, Rows.entryAt, List.getElem?_cons_zero, Option.getD_some, differ,
    Nat.add_sub_cancel, unpaired, true_or, if_true, Bool.false_eq_true, if_false]
  omega

/-- The next row has distances that are larger by one. -/
theorem nextRow_atLeast (apart : ∀ c ∈ left, c ∉ right) (older : Rows) {newest : List Nat}
    {i : Nat} {c : Char} (onLeft : c ∈ left) (least : AtLeast i newest)
    (wide : newest.length = right.length + 1) :
    (nextRow left right (newest :: older) (i + 1) c).length = right.length + 1 ∧
      AtLeast (i + 1) (nextRow left right (newest :: older) (i + 1) c) := by
  -- The row grows by one entry for each character on the right.
  refine foldl_zipIdx_induct (fun k row => row.length = k + 1 ∧ AtLeast (i + 1) row)
    ⟨List.length_singleton, fun e member => ?_⟩ ?_
  · cases List.mem_singleton.mp member
    exact Nat.le_refl _
  · rintro k d row onRight inside ⟨begun, leastHere⟩
    have entry := le_nextEntry apart older onLeft onRight least
      (show k + 1 < newest.length by omega) leastHere (show k < row.length by omega)
    refine ⟨by simp [begun], fun e member => ?_⟩
    rcases List.mem_append.mp member with before | new
    · exact leastHere e before
    · cases List.mem_singleton.mp new
      exact entry

/-- The newest row of the table has no distance below the length of the left text. -/
theorem table_atLeast (apart : ∀ c ∈ left, c ∉ right) :
    ∃ newest older, table left right = newest :: older ∧ newest.length = right.length + 1 ∧
      AtLeast left.length newest := by
  -- Every row belongs to a left part, and its distances are at least the length of that part.
  refine foldl_zipIdx_induct (fun k rows => ∃ newest older, rows = newest :: older ∧
      newest.length = right.length + 1 ∧ AtLeast k newest)
    ⟨_, [], rfl, List.length_range, fun _ _ => Nat.zero_le _⟩ ?_
  rintro k c _ onLeft - ⟨newest, older, rfl, wide, least⟩
  obtain ⟨wideNext, leastNext⟩ := nextRow_atLeast apart older onLeft least wide
  exact ⟨_, _, rfl, wideNext, leastNext⟩

/-- A text that is fewer edits away than it has characters has one of them in common. -/
theorem exists_common_of_distance_lt (near : distance left right < left.length) :
    ∃ c ∈ left, c ∈ right := by
  by_cases common : ∃ c ∈ left, c ∈ right
  · exact common
  · have apart : ∀ c ∈ left, c ∉ right := fun c onLeft onRight => common ⟨c, onLeft, onRight⟩
    obtain ⟨newest, older, built, wide, least⟩ := table_atLeast apart
    have far : left.length ≤ newest[right.length]?.getD 0 := least.le_getD (by omega)
    -- The distance is the last entry of the newest row.
    have read : distance left right = newest[right.length]?.getD 0 := by
      rw [distance, built]
      rfl
    omega

end ToolPolicy.EditDistance
