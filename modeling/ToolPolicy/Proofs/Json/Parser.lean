import Mathlib.Data.String.Basic
import ToolPolicy.Json.Parser
import ToolPolicy.Proofs.Content
import ToolPolicy.Proofs.Double.Rounding
import ToolPolicy.Proofs.Except

/-! What is read from a JSON text can be told from what is written of it. -/

namespace ToolPolicy

namespace Json

/-! ### Numbers -/

/-- Whether a number is read back from its text. -/
def IsNumber : Number → Prop
  | .integer _ => True
  | .float x => x.isNaN = false

/-- The tree of a number is sound. -/
theorem IsNumber.sound {n : Number} (number : IsNumber n) : n.toNode.IsSound := by
  cases n with
  | integer n =>
    rw [Number.toNode]
    split
    · exact Node.isSound_int _
    · exact .float (Double.isNaN_ofRatio _ _ _)
  | float x => exact .float number

/-- Scaling down by a power of ten yields a number. -/
theorem isNaN_scaleDown {x : Double} (number : x.isNaN = false) (exponent : Nat) :
    (scaleDown x exponent).isNaN = false := by
  -- Large exponents are taken down in steps of three hundred and eight.
  induction exponent using Nat.strongRecOn generalizing x with
  | ind exponent ih =>
    unfold scaleDown
    split
    · exact Double.isNaN_ofRatio _ _ _
    · split
      · exact number
      · exact ih (exponent - 308) (by omega) (Double.isNaN_ofRatio _ _ _)

/-- Scaling by a power of ten yields a number. -/
theorem isNaN_scaled {significand : Nat} {exponent : Int} {x : Double}
    (found : scaled significand exponent = some x) : x.isNaN = false := by
  have start : (Double.ofRatio false significand 1).isNaN = false := Double.isNaN_ofRatio _ _ _
  unfold scaled at found
  dsimp only at found
  split at found
  · obtain rfl := Option.some.inj found
    exact isNaN_scaleDown start _
  -- Beyond the table of powers a number is scaled down, or it is scaled up as long as it stays
  -- finite.
  · split at found
    · split at found
      · cases found
      · obtain rfl := Option.some.inj found
        exact Double.isNaN_ofRatio _ _ _
    · split at found
      · obtain rfl := Option.some.inj found
        exact start
      · cases found

/-- A sign makes no number something else. -/
theorem isNaN_signed (negative : Bool) {x : Double} (number : x.isNaN = false) :
    (signed negative x).isNaN = false := by
  unfold signed
  split
  · exact Double.isNaN_neg number
  · exact number

/-- Whether every number that a step reads is one. -/
def ReadsNumbers (step : Step Number) : Prop := ∀ n left, step = .ok (n, left) → IsNumber n

/-- Where reading stops no number is read. -/
theorem readsNumbers_error (stop : Stop) : ReadsNumbers (.error stop) := nofun

/-- A double that is a number is read as one. -/
theorem readsNumbers_float {x : Double} (number : x.isNaN = false) (left : List Char) :
    ReadsNumbers (.ok (.float x, left)) := by
  rintro _ _ ⟨⟩
  exact number

/-- The parts of a number are read as one. -/
theorem readsNumbers_ofParts (negative : Bool) (significand : Nat) (exponent : Int)
    (left : List Char) : ReadsNumbers (ofParts negative significand exponent left) := by
  unfold ofParts
  split
  · next x found => exact readsNumbers_float (isNaN_signed negative (isNaN_scaled found)) left
  · exact readsNumbers_error _

/-- A number with an exponent is read as one. -/
theorem readsNumbers_readExponentDigits (negative down : Bool) (significand : Nat) (exponent : Int)
    (e : Nat) (cs : List Char) :
    ReadsNumbers (readExponentDigits negative down significand exponent e cs) := by
  induction cs generalizing e with
  | nil => exact readsNumbers_ofParts _ _ _ _
  | cons c rest ih =>
    unfold readExponentDigits
    dsimp only
    split
    -- An exponent that is out of range either stops the reader or leaves a zero.
    · split
      · split
        · exact readsNumbers_error _
        · exact readsNumbers_float (Double.isNaN_ofMagnitude _ (Nat.zero_le _)) _
      · exact ih _
    · exact readsNumbers_ofParts _ _ _ _

/-- A number is read as one whatever follows its digits. -/
theorem readsNumbers_readTail (negative : Bool) (significand : Nat) (exponent : Int)
    (cs : List Char) : ReadsNumbers (readTail negative significand exponent cs) := by
  -- Both letters for an exponent lead here.
  have scaled (rest : List Char) :
      ReadsNumbers (readExponent negative significand exponent rest) := by
    unfold readExponent
    dsimp only
    split
    · exact readsNumbers_error _
    · split
      · exact readsNumbers_readExponentDigits _ _ _ _ _ _
      · exact readsNumbers_error _
  unfold readTail
  split
  · exact scaled _
  · exact scaled _
  · exact readsNumbers_ofParts _ _ _ _

/-- A number is read as one whatever follows its first digits. -/
theorem readsNumbers_readAfterInteger (negative : Bool) (significand : Nat) (cs : List Char) :
    ReadsNumbers (readAfterInteger negative significand cs) := by
  unfold readAfterInteger
  dsimp only
  split
  -- A point needs digits behind it.
  · unfold readFraction
    split
    · exact readsNumbers_error _
    · split
      · exact readsNumbers_readTail _ _ _ _
      · exact readsNumbers_error _
  -- Integers that fit are kept, and the others become doubles.
  · split
    · exact readsNumbers_readTail _ _ _ _
    · exact readsNumbers_readTail _ _ _ _
    · split
      · exact readsNumbers_ofParts _ _ _ _
      · split
        · rintro _ _ ⟨⟩
          trivial
        · exact readsNumbers_float (isNaN_signed negative (Double.isNaN_ofRatio _ _ _)) _

/-- Every number is read as one. -/
theorem readsNumbers_readNumber (negative : Bool) (cs : List Char) :
    ReadsNumbers (readNumber negative cs) := by
  unfold readNumber
  split
  · exact readsNumbers_error _
  · split
    · exact readsNumbers_error _
    · exact readsNumbers_readAfterInteger _ _ _
  · split
    · exact readsNumbers_readAfterInteger _ _ _
    · exact readsNumbers_error _

/-! ### Keys -/

/-- Whether the keys of entries are in order, so that none comes twice. -/
def IsOrdered {α : Type} (entries : List (String × α)) : Prop :=
  (entries.map Prod.fst).Pairwise (· < ·)

/-- A new key is among those that were there, or it is the one put in. -/
theorem mem_keys_insertKey {α : Type} {key name : String} {value : α} {entries : List (String × α)}
    (member : name ∈ (insertKey key value entries).map Prod.fst) :
    name = key ∨ name ∈ entries.map Prod.fst := by
  induction entries with
  | nil => simpa [insertKey] using member
  | cons entry rest ih =>
    rw [insertKey] at member
    -- The key stands here already, or before the first entry, or further behind.
    split at member
    · next same => simpa [same] using member
    · split at member
      · simpa using member
      · rw [List.map_cons, List.mem_cons] at member
        rcases member with rfl | later
        · exact .inr List.mem_cons_self
        · exact (ih later).imp_right (List.mem_cons_of_mem _)

/-- Putting in an entry keeps the order. -/
theorem IsOrdered.insertKey {α : Type} (key : String) (value : α) {entries : List (String × α)}
    (ordered : IsOrdered entries) : IsOrdered (insertKey key value entries) := by
  induction entries with
  | nil => simp [IsOrdered, Json.insertKey]
  | cons entry rest ih =>
    obtain ⟨first, others⟩ := List.pairwise_cons.mp ordered
    rw [Json.insertKey]
    split
    -- A key that is there already gets another value, and the order of the keys stays.
    · next same =>
      rw [IsOrdered, List.map_cons, same]
      exact ordered
    · next other =>
      split
      · next before =>
        refine List.pairwise_cons.mpr ⟨fun name member => ?_, ordered⟩
        rcases List.mem_cons.mp member with rfl | later
        · exact before
        · exact lt_trans before (first name later)
      · next after =>
        -- The key goes behind the first one, which is before it and before all the others.
        refine List.pairwise_cons.mpr ⟨fun name member => ?_, ih others⟩
        rcases mem_keys_insertKey member with rfl | later
        · exact lt_of_le_of_ne (not_lt.mp after) (Ne.symm other)
        · exact first name later

/-- The values that are put in one after the other are all that there are. -/
theorem mem_insertKey {α : Type} {key : String} {value : α} {entries : List (String × α)}
    {entry : String × α} (member : entry ∈ insertKey key value entries) :
    entry.2 = value ∨ entry ∈ entries := by
  induction entries with
  | nil => simp_all [insertKey]
  | cons first rest ih =>
    rw [insertKey] at member
    split at member
    -- In each case the head is the new entry or an old one.
    · rcases List.mem_cons.mp member with rfl | later
      · exact .inl rfl
      · exact .inr (List.mem_cons_of_mem _ later)
    · split at member
      · rcases List.mem_cons.mp member with rfl | later
        · exact .inl rfl
        · exact .inr later
      · rcases List.mem_cons.mp member with rfl | later
        · exact .inr List.mem_cons_self
        · exact (ih later).imp_right (List.mem_cons_of_mem _)

/-! ### Values -/

/-- The items of a list become those of its tree. -/
theorem Value.itemNodes_eq_map (items : List Value) : itemNodes items = items.map toNode := by
  induction items with
  | nil => rfl
  | cons item rest ih => rw [itemNodes, ih, List.map_cons]

/-- The entries of an object become those of its tree. -/
theorem Value.entryNodes_eq_map (entries : List (String × Value)) :
    entryNodes entries = entries.map fun entry => (entry.1, entry.2.toNode) := by
  induction entries with
  | nil => rfl
  | cons entry rest ih => rw [entryNodes, ih, List.map_cons]

/-- Whether the tree of a value can be told from what is written of it. -/
def IsSound (value : Value) : Prop := value.toNode.IsSound

/-- A list is sound if its items are. -/
theorem isSound_array_iff {items : List Value} :
    IsSound (.array items) ↔ ∀ item ∈ items, IsSound item := by
  unfold IsSound
  rw [Value.toNode, Value.itemNodes_eq_map, Node.isSound_sequence_iff, List.forall_mem_map]

/-- An object is sound if its keys are distinct and its values are sound. -/
theorem isSound_object_iff {entries : List (String × Value)} :
    IsSound (.object entries) ↔
      (entries.map Prod.fst).Nodup ∧ ∀ entry ∈ entries, IsSound entry.2 := by
  unfold IsSound
  rw [Value.toNode, Value.entryNodes_eq_map, Node.isSound_mapping_iff, List.map_map,
    List.forall_mem_map]
  rfl

/-- Whatever is read with so much fuel is sound. -/
structure ReadsSound (fuel : Nat) : Prop where
  value : ∀ {depth cs v left}, readValue fuel depth cs = .ok (v, left) → IsSound v
  items : ∀ {depth place cs items left}, readItems fuel depth place cs = .ok (items, left) →
    ∀ item ∈ items, IsSound item
  entries : ∀ {depth place known cs entries left},
    readEntries fuel depth place known cs = .ok (entries, left) → IsOrdered known →
      (∀ entry ∈ known, IsSound entry.2) → IsOrdered entries ∧ ∀ entry ∈ entries, IsSound entry.2

/-- A number that is read is sound. -/
theorem isSound_of_number {negative : Bool} {cs left : List Char} {v : Value}
    (found :
      ((readNumber negative cs).map fun (n, left) => (Value.number n, left)) = .ok (v, left)) :
    IsSound v := by
  obtain ⟨⟨n, left⟩, read, ⟨⟩⟩ := exists_of_map found
  exact (readsNumbers_readNumber negative cs n left read).sound

/-- A value is sound if what is read within it is. -/
theorem ReadsSound.readValue_succ {fuel : Nat} (within : ReadsSound fuel) {depth : Nat}
    {cs left : List Char} {v : Value} (found : readValue (fuel + 1) depth cs = .ok (v, left)) :
    IsSound v := by
  rw [readValue] at found
  split at found
  · cases found
  -- The three words.
  · obtain ⟨_, -, ⟨⟩⟩ := exists_of_map found
    exact .null
  · obtain ⟨_, -, ⟨⟩⟩ := exists_of_map found
    exact .bool true
  · obtain ⟨_, -, ⟨⟩⟩ := exists_of_map found
    exact .bool false
  · exact isSound_of_number found
  · obtain ⟨⟨s, left⟩, -, ⟨⟩⟩ := exists_of_map found
    exact .string _
  -- Lists and objects stop at once where they lie too deep.
  · split at found
    · cases found
    · obtain ⟨⟨items, left⟩, read, ⟨⟩⟩ := exists_of_map found
      exact isSound_array_iff.mpr (within.items read)
  · split at found
    · cases found
    · obtain ⟨⟨entries, left⟩, read, ⟨⟩⟩ := exists_of_map found
      obtain ⟨ordered, parts⟩ := within.entries read List.Pairwise.nil (by simp)
      exact isSound_object_iff.mpr ⟨ordered.imp ne_of_lt, parts⟩
  · split at found
    · exact isSound_of_number found
    · cases found

/-- The items of a list are sound if what is read within them is. -/
theorem ReadsSound.readItems_succ {fuel : Nat} (within : ReadsSound fuel) {depth : Nat}
    {place : Place} {cs left : List Char} {items : List Value}
    (found : readItems (fuel + 1) depth place cs = .ok (items, left)) :
    ∀ item ∈ items, IsSound item := by
  rw [readItems] at found
  split at found
  · cases found
  · cases found
    simp
  · split at found
    · cases found
    · next item rest read =>
      -- One item is read with the fuel that is left, and so are those behind it.
      obtain ⟨⟨others, left⟩, later, ⟨⟩⟩ := exists_of_map found
      exact List.forall_mem_cons.mpr ⟨within.value read, within.items later⟩

/-- The entries of an object are put in one by one, which keeps their order. -/
theorem ReadsSound.readEntries_succ {fuel : Nat} (within : ReadsSound fuel) {depth : Nat}
    {place : Place} {cs left : List Char} {known entries : List (String × Value)}
    (found : readEntries (fuel + 1) depth place known cs = .ok (entries, left))
    (ordered : IsOrdered known) (sound : ∀ entry ∈ known, IsSound entry.2) :
    IsOrdered entries ∧ ∀ entry ∈ entries, IsSound entry.2 := by
  rw [readEntries] at found
  split at found
  · cases found
  · cases found
    exact ⟨ordered, sound⟩
  -- A key, a colon and a value are read in turn, and each of them can stop the reader.
  · split at found
    · cases found
    · split at found
      · cases found
      · split at found
        · cases found
        · next value rest read =>
          refine within.entries found (ordered.insertKey _ _) fun entry member => ?_
          rcases mem_insertKey member with same | earlier
          · exact same ▸ within.value read
          · exact sound entry earlier

/-- Whatever is read is sound. -/
theorem readsSound (fuel : Nat) : ReadsSound fuel := by
  induction fuel with
  | zero =>
    constructor
    · intro depth cs v left found
      cases found
    · intro depth place cs items left found
      cases found
    · intro depth place known cs entries left found
      cases found
  | succ fuel ih => exact ⟨ih.readValue_succ, ih.readItems_succ, ih.readEntries_succ⟩

/-- What a JSON text holds is sound. -/
theorem isSound_of_parse {text : String} {value : Value} (read : parse text = .ok value) :
    IsSound value := by
  unfold parse at read
  cases found : readText text.toList with
  | error stop =>
    rw [found] at read
    cases read
  | ok v =>
    rw [found] at read
    obtain rfl : v = value := Except.ok.inj read
    unfold readText at found
    -- Only blanks may follow the value.
    split at found
    · cases found
    · next v' rest whole =>
      split at found
      · cases found
        exact (readsSound _).value whole
      · cases found

end Json

end ToolPolicy
