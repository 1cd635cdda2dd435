import ToolPolicy.Proofs.Yaml.Merge

/-! What the tree of a value shows of it: of the entries whose keys have one text, the last. -/

namespace ToolPolicy.Yaml.Value

/-- The text of a key: a string stands for itself, any other key is shown as its tree is. -/
def keyText : Value → String
  | string s => s
  | key => key.toNode.text

/-- A string is shown as its tree is, too. -/
theorem keyText_eq (key : Value) : key.keyText = key.toNode.text := by
  cases key with
  | string s => rw [keyText, toNode, Node.text_string]
  | _ => rfl

/-- What an entry is shown as. -/
def shownEntry (entry : Value × Value) : String × Node := (entry.1.keyText, entry.2.toNode)

/-- A mapping is shown as what it has under the texts of its keys. -/
theorem toNode_mapping (entries : List (Value × Value)) :
    (mapping entries).toNode = .mapping (Entries.ofList (entries.map shownEntry)) := by
  have texts : entryNodes entries = entries.map shownEntry := by
    rw [entryNodes_eq_map]
    exact List.map_congr_left fun entry _ => Prod.ext (keyText_eq entry.1).symm rfl
  rw [toNode, texts]

/-- Whether an entry of a mapping is the last with the text of its key. -/
def Lasts (entry : Value × Value) (entries : List (Value × Value)) : Prop :=
  ∃ before after, entries = before ++ entry :: after ∧
    ∀ later ∈ after, later.1.keyText ≠ entry.1.keyText

/-- A part of a value that is not lost: the value itself, or such a part of an item, of the value of
an entry that lasts, or of what stands behind a tag. -/
inductive IsShown (part : Value) : Value → Prop
  | self : IsShown part part
  | item {items : List Value} {item : Value} (member : item ∈ items) (within : IsShown part item) :
      IsShown part (sequence items)
  | entry {entries : List (Value × Value)} {entry : Value × Value} (lasts : Lasts entry entries)
      (within : IsShown part entry.2) : IsShown part (mapping entries)
  | tagged {tag : String} {value : Value} (within : IsShown part value) :
      IsShown part (tagged tag value)

/-- An entry of the tree shows one that lasts. -/
theorem mem_ofList_shown {entries : List (Value × Value)} {shown : String × Node} :
    shown ∈ Entries.ofList (entries.map shownEntry) ↔
      ∃ entry, Lasts entry entries ∧ shownEntry entry = shown := by
  rw [Entries.mem_ofList]
  constructor
  -- Entries that were shown come from entries in the same places.
  · rintro ⟨before, after, split, last⟩
    obtain ⟨early, late, rfl, -, rest⟩ := List.map_eq_append_iff.mp split
    obtain ⟨entry, later, rfl, rfl, rfl⟩ := List.map_eq_cons_iff.mp rest
    refine ⟨entry, ⟨early, later, rfl, fun other among same => last ?_⟩, rfl⟩
    rw [Entries.keys, List.map_map]
    exact List.mem_map.mpr ⟨other, among, same⟩
  · rintro ⟨entry, ⟨before, after, rfl, last⟩, rfl⟩
    refine ⟨before.map shownEntry, after.map shownEntry, by simp, fun member => ?_⟩
    rw [Entries.keys, List.map_map] at member
    obtain ⟨other, among, same⟩ := List.mem_map.mp member
    exact last other among same

/-- What is not lost is there in the tree. -/
theorem IsShown.isPart {part value : Value} (shown : IsShown part value) :
    part.toNode.IsPart value.toNode := by
  -- One step of the tree for each step into the value; tags take none.
  induction shown with
  | self => exact .self
  | item member within ih =>
    rw [toNode, itemNodes_eq_map]
    exact .item (List.mem_map_of_mem member) ih
  | entry lasts within ih =>
    rw [toNode_mapping]
    exact .entry (mem_ofList_shown.mpr ⟨_, lasts, rfl⟩) ih
  | tagged within ih =>
    rw [toNode]
    exact ih

/-- What is there in the tree shows a part of the value. -/
theorem exists_isShown {value : Value} {part : Node} (within : part.IsPart value.toNode) :
    ∃ source, IsShown source value ∧ source.toNode = part := by
  -- What lies within a value is less deep, so the induction is on the depth.
  induction deep : value.depth using Nat.strongRecOn generalizing value with
  | _ depth ih =>
    subst deep
    cases value with
    | sequence items =>
      rw [toNode, itemNodes_eq_map] at within
      cases within with
      | self => exact ⟨sequence items, .self, by rw [toNode, itemNodes_eq_map]⟩
      | item member inner =>
        obtain ⟨item, listed, rfl⟩ := List.mem_map.mp member
        have smaller := Nat.lt_succ_of_le (depth_item listed)
        obtain ⟨source, shown, tree⟩ := ih item.depth smaller inner rfl
        exact ⟨source, .item listed shown, tree⟩
    | mapping entries =>
      rw [toNode_mapping] at within
      cases within with
      | self => exact ⟨mapping entries, .self, toNode_mapping entries⟩
      | entry member inner =>
        -- An entry of the tree is one that lasts, and this is one of the mapping.
        obtain ⟨entry, lasts, rfl⟩ := mem_ofList_shown.mp member
        have listed : entry ∈ entries := by
          obtain ⟨before, after, rfl, -⟩ := lasts
          simp
        have smaller := Nat.lt_succ_of_le (depth_entry listed)
        obtain ⟨source, shown, tree⟩ := ih entry.2.depth smaller inner rfl
        exact ⟨source, .entry lasts shown, tree⟩
    | tagged tag inner =>
      rw [toNode] at within
      obtain ⟨source, shown, tree⟩ := ih inner.depth (Nat.lt_succ_self _) within rfl
      exact ⟨source, .tagged shown, tree⟩
    -- The tree of a number has no parts but itself.
    | number n =>
      rw [toNode] at within
      exact ⟨number n, .self, by rw [toNode, isPart_number within]⟩
    | _ =>
      rw [toNode] at within
      cases within
      exact ⟨_, .self, by rw [toNode]⟩

/-- A mapping in a tree was put together entry by entry. -/
theorem exists_ofList {value : Value} {made : List (String × Node)}
    (tree : value.toNode = .mapping made) : ∃ given, made = Entries.ofList given := by
  -- Only a mapping, perhaps behind tags, has the tree of a mapping.
  induction value using showsMergeKey.induct with
  | case1 s =>
    rw [toNode] at tree
    cases tree
  | case2 tag inner ih =>
    rw [toNode] at tree
    exact ih tree
  | case3 value notString notTagged =>
    cases value with
    | mapping entries =>
      rw [toNode_mapping] at tree
      cases tree
      exact ⟨_, rfl⟩
    | number n =>
      rw [toNode] at tree
      cases n with
      | integer i =>
        rw [Number.toNode] at tree
        split at tree <;> cases tree
      | float x => cases tree
    | tagged tag inner => exact absurd rfl (notTagged tag inner)
    | _ =>
      rw [toNode] at tree
      cases tree

/-- In every mapping of the tree of a value the keys are distinct. -/
theorem isKeyed_toNode (value : Value) : value.toNode.IsKeyed := by
  intro made within
  obtain ⟨source, -, tree⟩ := exists_isShown within
  obtain ⟨given, rfl⟩ := exists_ofList tree
  exact Entries.nodup_keys_ofList given

/-- Nothing is lost of a mapping whose keys are strings. -/
theorem ofList_shown_of_strings {entries : List (Value × Value)} (differ : KeysDiffer entries)
    (strings : ∀ entry ∈ entries, ∃ s, entry.1 = string s) :
    Entries.ofList (entries.map shownEntry) = entries.map shownEntry := by
  refine Entries.ofList_eq ?_
  rw [List.map_map]
  refine List.pairwise_map.mpr (differ.imp_of_mem fun {earlier later} first second apart => ?_)
  -- Two strings that do not agree are two texts.
  obtain ⟨s, key⟩ := strings earlier first
  obtain ⟨t, other⟩ := strings later second
  rw [key, other, Value.same, beq_eq_false_iff_ne] at apart
  show earlier.1.keyText ≠ later.1.keyText
  rwa [key, other]

/--
The tree of a value shows the parts of it that are not lost, and every mapping of it has each of its
key texts at the first place where it occurs, with the value of the last entry that has it.

So no mapping of the tree has a key twice, and a mapping whose keys are strings loses nothing.
-/
theorem toNode_keepsLast (value : Value) :
    (∀ part, part.IsPart value.toNode ↔ ∃ source, IsShown source value ∧ source.toNode = part) ∧
    (∀ entries, IsPart (mapping entries) value →
      ∃ made, (mapping entries).toNode = .mapping made ∧
        Entries.KeepsLast (entries.map shownEntry) made ∧
        (KeysDiffer entries → (∀ entry ∈ entries, ∃ s, entry.1 = string s) →
          made = entries.map shownEntry)) ∧
    value.toNode.IsKeyed := by
  refine ⟨fun part => ⟨exists_isShown, ?_⟩, fun entries _ => ?_, isKeyed_toNode value⟩
  · rintro ⟨source, shown, rfl⟩
    exact shown.isPart
  · exact ⟨_, toNode_mapping entries, Entries.keepsLast_ofList _, ofList_shown_of_strings⟩

/-- A number and a string of the same text: the entry of the string takes the other one's place. -/
example : (mapping [(number (.integer 1), string "a"), (null, string "b"),
    (string "1", string "c")]).toNode = .mapping [("1", .string "c"), ("null", .string "b")] := by
  cbv

end ToolPolicy.Yaml.Value
