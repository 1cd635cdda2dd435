import ToolPolicy.Proofs.Node.Entries
import ToolPolicy.Proofs.Yaml.Reader

/-! From the value of a written tree back to the tree. -/

namespace ToolPolicy.Yaml.Value

/-- The items of a sequence are read one by one. -/
theorem ofItems_eq_map (items : List Content) : ofItems items = items.map ofContent := by
  induction items with
  | nil => rfl
  | cons item rest ih => rw [ofItems, ih, List.map_cons]

/-- The entries of a mapping are read one by one. -/
theorem ofEntries_eq_map (entries : List (String × Content)) :
    ofEntries entries = entries.map fun entry => (string entry.1, ofContent entry.2) := by
  induction entries with
  | nil => rfl
  | cons entry rest ih => rw [ofEntries, ih, List.map_cons]

/-! ### Merging -/

/-- What a function leaves alone one by one it leaves alone as a list. -/
theorem mapFromLast_eq {f : Value → Except Fault Value} {items : List Value}
    (same : ∀ item ∈ items, f item = .ok item) : mapFromLast f items = .ok items := by
  induction items with
  | nil => rfl
  | cons item rest ih =>
    obtain ⟨first, others⟩ := List.forall_mem_cons.mp same
    simp [mapFromLast, ih others, first, bind, Except.bind, pure, Except.pure]

/-- Without merge keys entries stay as they are. -/
theorem mergeEntries_ofEntries {entries : List (String × Content)}
    (free : ∀ entry ∈ entries, entry.1 ≠ "<<") :
    mergeEntries (ofEntries entries) = .ok (ofEntries entries) := by
  -- No merge key is found, so that there is nothing to merge.
  have missing : (ofEntries entries).findIdx? (·.1.isMergeKey) = none := by
    rw [ofEntries_eq_map, List.findIdx?_eq_none_iff]
    intro read member
    obtain ⟨entry, among, rfl⟩ := List.mem_map.mp member
    simpa [isMergeKey] using free entry among
  rw [mergeEntries, missing]

/-- Without merge keys a value stays as it is. -/
theorem mergeWithin_ofContent {value : Content} (free : value.mentions "<<" = false) (fuel : Nat) :
    mergeWithin fuel (ofContent value) = .ok (ofContent value) := by
  induction value using Content.inductionOn generalizing fuel with
  -- Values without parts are left alone at once.
  | leaf value leaf =>
    cases fuel with
    | zero => rfl
    | succ fuel =>
      cases value with
      | sequence items => cases items <;> first | rfl | cases leaf
      | mapping entries => cases entries <;> first | rfl | cases leaf
      | _ => rfl
  | ofItems item rest parts =>
    cases fuel with
    | zero => rfl
    | succ fuel =>
      rw [Content.mentions, Content.anyItemMentions_eq_false_iff] at free
      -- No fuel is needed to leave the parts alone, so the induction gives them at any fuel.
      have items : mapFromLast (mergeWithin fuel) (ofItems (item :: rest)) =
          .ok (ofItems (item :: rest)) := by
        apply mapFromLast_eq
        intro value member
        rw [ofItems_eq_map, List.mem_map] at member
        obtain ⟨part, among, rfl⟩ := member
        exact parts part among (free part among) fuel
      simp only [ofContent, mergeWithin, items]
      rfl
  | ofEntries entry rest parts =>
    cases fuel with
    | zero => rfl
    | succ fuel =>
      rw [Content.mentions, Content.anyEntryMentions_eq_false_iff] at free
      -- The entries stay as they are, and so do their values.
      have entries := mergeEntries_ofEntries fun part among => (free part among).1
      have values : mapFromLast (mergeWithin fuel) ((ofEntries (entry :: rest)).map Prod.snd) =
          .ok ((ofEntries (entry :: rest)).map Prod.snd) := by
        apply mapFromLast_eq
        intro value member
        rw [ofEntries_eq_map, List.map_map, List.mem_map] at member
        obtain ⟨part, among, rfl⟩ := member
        exact parts part among (free part among).2 fuel
      -- The keys are put back before the values that were taken apart from them.
      have whole (es : List (Value × Value)) : (es.map Prod.fst).zip (es.map Prod.snd) = es := by
        rw [List.zip_map']
        simp
      simp only [ofContent, mergeWithin, entries, values, bind, Except.bind, whole]
      rfl

/-! ### Trees -/

/-- An integer of a tree is read as itself. -/
theorem toNode_integer (n : Int64) : (Number.integer n.toInt).toNode = .int n := by
  have low : Number.minInt ≤ n.toInt := Int64.le_toInt n
  have high : n.toInt ≤ Number.maxInt := Int64.toInt_le n
  rw [Number.toNode, if_pos ⟨low, high⟩, Int64.ofInt_toInt]

mutual

/-- What is read from a written tree is the tree. -/
theorem toNode_ofContent : ∀ n : Node, n.IsSound → (ofContent n.content).toNode = n
  | .null, _ => rfl
  | .bool b, _ => rfl
  | .int n, _ => by simp only [Node.content, ofContent, toNode, toNode_integer]
  | .float x, _ => rfl
  | .string s, _ => rfl
  | .sequence items, sound => by
    have same := itemNodes_ofItems items (Node.isSound_sequence_iff.mp sound)
    simp only [Node.content, ofContent, toNode, same]
  | .mapping entries, sound => by
    obtain ⟨distinct, parts⟩ := Node.isSound_mapping_iff.mp sound
    have same := entryNodes_ofEntries entries parts
    simp only [Node.content, ofContent, toNode, same, Entries.ofList_eq distinct]

/-- The items that are read are the items of the tree. -/
theorem itemNodes_ofItems : ∀ items : List Node, (∀ item ∈ items, item.IsSound) →
    itemNodes (ofItems (Node.itemContents items)) = items
  | [], _ => rfl
  | item :: rest, sound => by
    obtain ⟨first, others⟩ := List.forall_mem_cons.mp sound
    rw [Node.itemContents, ofItems, itemNodes, toNode_ofContent item first,
      itemNodes_ofItems rest others]

/-- The entries that are read are the entries of the tree. -/
theorem entryNodes_ofEntries : ∀ entries : List (String × Node),
    (∀ entry ∈ entries, entry.2.IsSound) →
      entryNodes (ofEntries (Node.entryContents entries)) = entries
  | [], _ => rfl
  | (key, value) :: rest, sound => by
    obtain ⟨first, others⟩ := List.forall_mem_cons.mp sound
    rw [Node.entryContents, ofEntries, entryNodes, toNode_ofContent value first,
      entryNodes_ofEntries rest others, toNode, Node.text_string]

end

end ToolPolicy.Yaml.Value
