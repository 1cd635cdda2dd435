import ToolPolicy.Content

/-! Induction over what is written, and what makes it readable again. -/

namespace ToolPolicy

namespace Content

/-- Whether a value has no parts. -/
def IsLeaf : Content → Prop
  | sequence (_ :: _) | mapping (_ :: _) => False
  | _ => True

/-- What holds of values without parts, and of other values if it holds of their parts, holds of
all. -/
theorem inductionOn {motive : Content → Prop} (leaf : ∀ value, IsLeaf value → motive value)
    (ofItems : ∀ item rest, (∀ part ∈ item :: rest, motive part) →
      motive (sequence (item :: rest)))
    (ofEntries : ∀ entry rest, (∀ part ∈ entry :: rest, motive part.2) →
      motive (mapping (entry :: rest))) : ∀ value, motive value
  | null | bool _ | int _ | float _ | string _ | sequence [] | mapping [] => leaf _ trivial
  | sequence (item :: rest) =>
    ofItems item rest fun part _ => inductionOn leaf ofItems ofEntries part
  | mapping (entry :: rest) =>
    ofEntries entry rest fun part _ => inductionOn leaf ofItems ofEntries part.2
termination_by value => sizeOf value
decreasing_by
  · have smaller := List.sizeOf_lt_of_mem ‹part ∈ item :: rest›
    simp only [sequence.sizeOf_spec]
    omega
  · have smaller := List.sizeOf_lt_of_mem ‹part ∈ entry :: rest›
    have within : sizeOf part.2 < sizeOf part := by
      cases part
      simp only [Prod.mk.sizeOf_spec]
      omega
    simp only [mapping.sizeOf_spec]
    omega

mutual

/-- How many collections lie within one another. -/
def depth : Content → Nat
  | sequence items => depthOfItems items + 1
  | mapping entries => depthOfEntries entries + 1
  | _ => 0

def depthOfItems : List Content → Nat
  | [] => 0
  -- The deepest item counts.
  | item :: rest => max (depth item) (depthOfItems rest)

def depthOfEntries : List (String × Content) → Nat
  | [] => 0
  | (_, value) :: rest => max (depth value) (depthOfEntries rest)

end

mutual

/-- Whether some mapping has a key. -/
def mentions (key : String) : Content → Bool
  | sequence items => anyItemMentions key items
  | mapping entries => anyEntryMentions key entries
  | _ => false

def anyItemMentions (key : String) : List Content → Bool
  | [] => false
  | item :: rest => mentions key item || anyItemMentions key rest

def anyEntryMentions (key : String) : List (String × Content) → Bool
  | [] => false
  | (name, value) :: rest => name == key || mentions key value || anyEntryMentions key rest

end

/-- An item lies less deep than its sequence. -/
theorem depth_item {item : Content} {items : List Content} (member : item ∈ items) :
    item.depth ≤ depthOfItems items := by
  induction items with
  | nil => cases member
  | cons first rest ih =>
    rw [depthOfItems]
    rcases List.mem_cons.mp member with rfl | later
    · exact Nat.le_max_left _ _
    · exact Nat.le_trans (ih later) (Nat.le_max_right _ _)

/-- A value lies less deep than its mapping. -/
theorem depth_entry {entry : String × Content} {entries : List (String × Content)}
    (member : entry ∈ entries) : entry.2.depth ≤ depthOfEntries entries := by
  induction entries with
  | nil => cases member
  | cons first rest ih =>
    rw [depthOfEntries]
    rcases List.mem_cons.mp member with rfl | later
    · exact Nat.le_max_left _ _
    · exact Nat.le_trans (ih later) (Nat.le_max_right _ _)

/-- A sequence mentions what its items mention. -/
theorem anyItemMentions_eq_false_iff {key : String} {items : List Content} :
    anyItemMentions key items = false ↔ ∀ item ∈ items, item.mentions key = false := by
  induction items with
  | nil => simp [anyItemMentions]
  | cons item rest ih => simp [anyItemMentions, ih]

/-- A mapping mentions its keys and what its values mention. -/
theorem anyEntryMentions_eq_false_iff {key : String} {entries : List (String × Content)} :
    anyEntryMentions key entries = false ↔
      ∀ entry ∈ entries, entry.1 ≠ key ∧ entry.2.mentions key = false := by
  induction entries with
  | nil => simp [anyEntryMentions]
  | cons entry rest ih => simp [anyEntryMentions, ih, and_assoc]

/-- Whether a value can be told from its text: integers have sixty-four bits, doubles are numbers,
and the keys of a mapping are distinct. -/
inductive IsSound : Content → Prop where
  | null : IsSound null
  | bool (b : Bool) : IsSound (bool b)
  | int {n : Int} (low : -0x8000000000000000 ≤ n) (high : n ≤ 0x7fffffffffffffff) : IsSound (int n)
  | float {x : Double} (number : x.isNaN = false) : IsSound (float x)
  | string (s : String) : IsSound (string s)
  | sequence {items : List Content} (parts : ∀ item ∈ items, IsSound item) :
      IsSound (sequence items)
  | mapping {entries : List (String × Content)} (distinct : (entries.map Prod.fst).Nodup)
      (parts : ∀ entry ∈ entries, IsSound entry.2) : IsSound (mapping entries)

end Content

namespace Node

/-- The items of a written sequence are the written items. -/
theorem itemContents_eq_map (items : List Node) : itemContents items = items.map content := by
  induction items with
  | nil => rfl
  | cons item rest ih => rw [itemContents, ih, List.map_cons]

/-- The entries of a written mapping are the written entries. -/
theorem entryContents_eq_map (entries : List (String × Node)) :
    entryContents entries = entries.map fun entry => (entry.1, entry.2.content) := by
  induction entries with
  | nil => rfl
  | cons entry rest ih => rw [entryContents, ih, List.map_cons]

/-- Whether a tree can be told from what is written of it. -/
def IsSound (n : Node) : Prop := n.content.IsSound

/-- Truth values are sound. -/
@[simp]
theorem isSound_bool (b : Bool) : IsSound (bool b) := .bool b

/-- Strings are sound. -/
@[simp]
theorem isSound_string (s : String) : IsSound (string s) := .string s

/-- Every integer of a tree is sound. -/
@[simp]
theorem isSound_int (n : Int64) : IsSound (int n) := .int (Int64.le_toInt n) (Int64.toInt_le n)

/-- A sequence is sound if its items are. -/
theorem isSound_sequence_iff {items : List Node} :
    IsSound (sequence items) ↔ ∀ item ∈ items, item.IsSound := by
  unfold IsSound
  rw [content, itemContents_eq_map]
  constructor
  · intro sound
    cases sound with
    | sequence parts => exact fun item member => parts item.content (List.mem_map_of_mem member)
  · intro parts
    refine .sequence fun part member => ?_
    -- Every written item is that of an item of the sequence.
    obtain ⟨item, among, rfl⟩ := List.mem_map.mp member
    exact parts item among

/-- A mapping is sound if its keys are distinct and its values are sound. -/
theorem isSound_mapping_iff {entries : List (String × Node)} :
    IsSound (mapping entries) ↔
      (entries.map Prod.fst).Nodup ∧ ∀ entry ∈ entries, entry.2.IsSound := by
  -- Writing the values leaves the keys as they are.
  have keys : (entries.map fun entry => (entry.1, entry.2.content)).map Prod.fst =
      entries.map Prod.fst := by
    simp [Function.comp_def]
  unfold IsSound
  rw [content, entryContents_eq_map]
  constructor
  · intro sound
    cases sound with
    | mapping distinct parts =>
      refine ⟨keys ▸ distinct, fun entry member => ?_⟩
      exact parts _ (List.mem_map_of_mem (f := fun entry => (entry.1, entry.2.content)) member)
  · rintro ⟨distinct, parts⟩
    refine .mapping (keys ▸ distinct) fun part member => ?_
    obtain ⟨entry, among, rfl⟩ := List.mem_map.mp member
    exact parts entry among

end Node

end ToolPolicy
