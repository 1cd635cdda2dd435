import Mathlib.Data.List.Forall2
import ToolPolicy.Proofs.Node.Entries
import ToolPolicy.Proofs.Node.Text
import ToolPolicy.Proofs.Yaml.Part

/-! Which merge keys are left when the merge keys of a value are resolved: a mapping has one exactly
where a mapping that it merges has one, since what is merged is not resolved before. -/

namespace ToolPolicy.Yaml.Value

/-! ### Keys that are shown as the key of a merge -/

/-- Whether a key is shown as the key of a merge. Tags are not shown. -/
def showsMergeKey : Value → Bool
  | string s => s == "<<"
  | tagged _ value => showsMergeKey value
  | _ => false

/-- Any two merge keys agree. -/
theorem same_of_isMergeKey {a b : Value} (first : a.isMergeKey = true)
    (second : b.isMergeKey = true) : a.same b = true := by
  cases a with
  | string s =>
    cases b with
    | string t => simp_all [isMergeKey, Value.same]
    | _ => cases second
  | _ => cases first

/-- Of two keys that differ at most one is the key of a merge. -/
theorem not_both_isMergeKey {a b : Value} (apart : a.same b = false) :
    ¬(a.isMergeKey = true ∧ b.isMergeKey = true) := by
  rintro ⟨first, second⟩
  rw [same_of_isMergeKey first second] at apart
  cases apart

/-- A key is shown by its display text. -/
theorem showsMergeKey_iff (key : Value) : key.showsMergeKey = true ↔ key.toNode.text = "<<" := by
  induction key using showsMergeKey.induct with
  | case1 s => simp [showsMergeKey, toNode]
  | case2 tag value ih => rw [showsMergeKey, toNode, ih]
  | case3 key notString notTagged =>
    constructor
    · intro shown
      cases key <;> simp_all [showsMergeKey]
    · -- Only a string is shown like this, and no other value has the tree of a string.
      intro shown
      have front : key.toNode.text.toList.head? = some '<' := by
        rw [shown]
        rfl
      have string := Node.eq_string_of_text front
      cases key with
      | number n =>
        cases n with
        | integer i =>
          rw [toNode, Number.toNode] at string
          split at string <;> cases string
        | float x => cases string
      | string s => exact absurd rfl (notString s)
      | tagged tag value => exact absurd rfl (notTagged tag value)
      | _ => cases string

/-- Keys that agree are both shown as the key of a merge, or neither is. -/
theorem showsMergeKey_of_same {a b : Value} (same : a.same b = true)
    (shown : b.showsMergeKey = true) : a.showsMergeKey = true := by
  induction b using showsMergeKey.induct generalizing a with
  | case1 s =>
    cases a with
    | string t =>
      have texts : t = s := by simpa [Value.same] using same
      exact texts ▸ shown
    | _ => simp [Value.same] at same
  | case2 tag value ih =>
    cases a with
    | tagged other inner =>
      simp only [Value.same, Bool.and_eq_true] at same
      show inner.showsMergeKey = true
      exact ih same.2 shown
    | _ => simp [Value.same] at same
  -- Only strings and tags can be shown like this, and the other key has the same form.
  | case3 key notString notTagged => cases key <;> simp_all [showsMergeKey]

/-! ### One mapping -/

/-- The mappings that a value under the key of a merge stands for. -/
def mappingsOf : Value → List (List (Value × Value))
  | mapping entries => [entries]
  | sequence items => items.filterMap fun
    | mapping entries => some entries
    | _ => none
  | _ => []

/-- The mappings that a mapping merges. -/
def mergedMappings (entries : List (Value × Value)) : List (List (Value × Value)) :=
  (entries.filter (·.1.isMergeKey)).flatMap fun entry => mappingsOf entry.2

/-- The entries of a mapping beside the key of a merge. -/
def ownEntries (entries : List (Value × Value)) : List (Value × Value) :=
  entries.filter (!·.1.isMergeKey)

/-- Whether a mapping keeps the key of a merge: one that it merges has it, or its own is behind a
tag. -/
def keepsMergeKey (entries : List (Value × Value)) : Bool :=
  (ownEntries entries ++ (mergedMappings entries).flatten).any (·.1.showsMergeKey)

/-- Taking out an entry leaves the others, the last of them in its place. -/
theorem swapOut_perm (before : List (Value × Value)) (entry : Value × Value)
    (after : List (Value × Value)) :
    (swapOut (before ++ entry :: after) before.length).Perm (before ++ after) := by
  unfold swapOut
  -- Without anything after it, the entry is itself the last one.
  rcases List.eq_nil_or_concat after with rfl | ⟨middle, last, rfl⟩
  · simp
  · rw [List.concat_eq_append]
    have final : (before ++ entry :: (middle ++ [last])).getLast? = some last := by
      rw [← List.cons_append, ← List.append_assoc, List.getLast?_concat]
    have longer : ¬before.length + 1 = (before ++ entry :: (middle ++ [last])).length := by simp
    have moved : (before ++ entry :: (middle ++ [last])).set before.length last =
        before ++ last :: middle ++ [last] := by
      simp
    rw [final]
    dsimp only
    rw [if_neg longer, moved, List.dropLast_concat, List.perm_append_left_iff]
    exact (List.perm_append_singleton last middle).symm

/-- The items of a list of mappings are merged one after the other. -/
theorem foldlM_mergeItem_eq_ok {items : List Value} {others entries : List (Value × Value)}
    (resolved : items.foldlM mergeItem others = .ok entries) :
    entries = (mappingsOf (sequence items)).flatten.foldl addMissing others := by
  -- What was added so far is the start for the items that are left.
  induction items generalizing others with
  | nil =>
    cases resolved
    rfl
  | cons item rest ih =>
    rw [List.foldlM_cons] at resolved
    obtain ⟨next, merged, later⟩ := bind_eq_ok_iff.mp resolved
    cases item with
    | mapping inner =>
      cases merged
      rw [ih later]
      simp [mappingsOf]
    | _ => cases merged

/-- A mapping stays as it is, or the entries that it merges are added one by one to its others. -/
theorem mergeEntries_cases {entries resolved : List (Value × Value)}
    (done : mergeEntries entries = .ok resolved) :
    (resolved = entries ∧ ∀ entry ∈ entries, entry.1.isMergeKey = false) ∨
      ∃ before key value after others, entries = before ++ (key, value) :: after ∧
        key.isMergeKey = true ∧ others.Perm (before ++ after) ∧
        resolved = (mappingsOf value).flatten.foldl addMissing others := by
  unfold mergeEntries at done
  split at done
  -- Only the first merge key is looked for; with distinct keys there is no other.
  case h_1 none =>
    cases done
    exact .inl ⟨rfl, List.findIdx?_eq_none_iff.mp none⟩
  case h_2 index found =>
    obtain ⟨inside, merges, -⟩ := List.findIdx?_eq_some_iff_getElem.mp found
    obtain ⟨before, ⟨key, value⟩, after, rfl, rfl⟩ : ∃ before entry after,
        entries = before ++ entry :: after ∧ before.length = index :=
      ⟨entries.take index, entries[index], entries.drop (index + 1), by simp, by simp; omega⟩
    have held : (before ++ (key, value) :: after)[before.length]? = some (key, value) := by simp
    simp only [held, Option.map_some, Option.getD_some] at done
    refine .inr ⟨before, key, value, after, _, rfl, by simpa using merges,
      swapOut_perm before (key, value) after, ?_⟩
    -- A mapping is merged at once, a list of mappings one after the other, and nothing else is.
    cases value with
    | mapping inner =>
      cases done
      simp [mappingsOf]
    | sequence items => exact foldlM_mergeItem_eq_ok done
    | _ => cases done

/-- An entry that was added one by one is one of those that were to be added. -/
theorem mem_of_mem_foldl_addMissing {added known : List (Value × Value)} {entry : Value × Value}
    (member : entry ∈ added.foldl addMissing known) : entry ∈ known ∨ entry ∈ added := by
  -- The known entries grow along the list.
  induction added generalizing known with
  | nil => exact .inl member
  | cons first rest ih =>
    rcases ih member with early | later
    · rw [addMissing] at early
      split at early
      · exact .inl early
      · rcases List.mem_append.mp early with there | new
        · exact .inl there
        · exact .inr (List.mem_cons.mpr (.inl (List.mem_singleton.mp new)))
    · exact .inr (List.mem_cons_of_mem _ later)

/-- The values of mappings that a value stands for are parts of it. -/
theorem isPart_of_mem_mappingsOf {value : Value} {merged : List (Value × Value)}
    (among : merged ∈ mappingsOf value) {entry : Value × Value} (member : entry ∈ merged) :
    IsPart entry.2 value := by
  cases value with
  -- A mapping is the only one that it stands for; a list stands for the mappings in it.
  | mapping entries =>
    obtain rfl := List.mem_singleton.mp among
    exact .entry member .self
  | sequence items =>
    obtain ⟨item, listed, same⟩ := List.mem_filterMap.mp among
    cases item with
    | mapping entries =>
      obtain rfl := Option.some.inj same
      exact .item listed (.entry member .self)
    | _ => cases same
  | _ => cases among

/-- Every value of a mapping that was resolved is part of a value that it had before. -/
theorem exists_of_mem_mergeEntries {entries resolved : List (Value × Value)}
    (done : mergeEntries entries = .ok resolved) {entry : Value × Value}
    (member : entry ∈ resolved) : ∃ source ∈ entries, IsPart entry.2 source.2 := by
  rcases mergeEntries_cases done with ⟨rfl, -⟩ |
    ⟨before, key, value, after, others, rfl, -, own, rfl⟩
  -- Without a merge every entry is its own source.
  · exact ⟨entry, member, .self⟩
  · rcases mem_of_mem_foldl_addMissing member with there | new
    · -- The entry was there before, beside the key of the merge.
      have among : entry ∈ before ++ after := own.mem_iff.mp there
      refine ⟨entry, ?_, .self⟩
      simp only [List.mem_append, List.mem_cons] at among ⊢
      exact among.imp_right .inr
    · -- The entry came with the merge, and lies in the value under its key.
      obtain ⟨merged, listed, inside⟩ := List.mem_flatten.mp new
      exact ⟨(key, value), by simp, isPart_of_mem_mappingsOf listed inside⟩

/-- Where keys differ there is only one merge key, so that all other entries are own ones. -/
theorem ownEntries_eq {before after : List (Value × Value)} {key value : Value}
    (differ : KeysDiffer (before ++ (key, value) :: after)) (merge : key.isMergeKey = true) :
    ownEntries (before ++ (key, value) :: after) = before ++ after ∧
      mergedMappings (before ++ (key, value) :: after) = mappingsOf value := by
  obtain ⟨-, later, across⟩ := List.pairwise_append.mp differ
  -- A second merge key would agree with the first one, before it or after it.
  have early : ∀ entry ∈ before, entry.1.isMergeKey = false := by
    intro entry member
    have apart := across entry member (key, value) List.mem_cons_self
    exact Bool.eq_false_iff.mpr fun another => not_both_isMergeKey apart ⟨another, merge⟩
  have late : ∀ entry ∈ after, entry.1.isMergeKey = false := by
    intro entry member
    have apart := (List.pairwise_cons.mp later).1 entry member
    exact Bool.eq_false_iff.mpr fun another => not_both_isMergeKey apart ⟨merge, another⟩
  constructor
  · rw [ownEntries, List.filter_append, List.filter_cons_of_neg (by simp [merge]),
      List.filter_eq_self.mpr fun entry member => by simp [early entry member],
      List.filter_eq_self.mpr fun entry member => by simp [late entry member]]
  · rw [mergedMappings, List.filter_append, List.filter_cons_of_pos (by simpa using merge),
      List.filter_eq_nil_iff.mpr fun entry member => by simp [early entry member],
      List.filter_eq_nil_iff.mpr fun entry member => by simp [late entry member]]
    simp

/-- An entry that is not added agrees with one that is there, so that merge keys do not get lost. -/
theorem any_showsMergeKey_foldl (added known : List (Value × Value)) :
    (added.foldl addMissing known).any (·.1.showsMergeKey) =
      (known ++ added).any (·.1.showsMergeKey) := by
  induction added generalizing known with
  | nil => simp
  | cons entry rest ih =>
    rw [List.foldl_cons, ih, addMissing]
    split
    case isTrue there =>
      obtain ⟨other, member, same⟩ := List.any_eq_true.mp there
      have shown : entry.1.showsMergeKey = true → known.any (·.1.showsMergeKey) = true := fun new =>
        List.any_eq_true.mpr ⟨other, member, showsMergeKey_of_same same new⟩
      cases new : entry.1.showsMergeKey with
      | false => simp [new]
      | true => simp [shown new]
    case isFalse absent => simp

/-- A mapping has a merge key after it is resolved exactly where it keeps one. -/
theorem any_showsMergeKey_mergeEntries {entries resolved : List (Value × Value)}
    (differ : KeysDiffer entries) (done : mergeEntries entries = .ok resolved) :
    resolved.any (·.1.showsMergeKey) = keepsMergeKey entries := by
  rcases mergeEntries_cases done with
    ⟨rfl, plain⟩ | ⟨before, key, value, after, others, rfl, merge, own, rfl⟩
  · -- Without the key of a merge nothing is merged.
    have all : ownEntries resolved = resolved :=
      List.filter_eq_self.mpr fun entry member => by simp [plain entry member]
    have nothing : resolved.filter (·.1.isMergeKey) = [] :=
      List.filter_eq_nil_iff.mpr fun entry member => by simp [plain entry member]
    simp [keepsMergeKey, all, mergedMappings, nothing]
  -- The order of the entries changes, and an entry counts wherever it stands.
  · obtain ⟨others', merged⟩ := ownEntries_eq differ merge
    rw [any_showsMergeKey_foldl, keepsMergeKey, others', merged, List.any_append, List.any_append,
      own.any_eq]

/-! ### Whole values -/

/-- A function succeeds on all items where it succeeds on each. -/
theorem mapFromLast_eq_ok_iff {f : Value → Except Fault Value} {items results : List Value} :
    mapFromLast f items = .ok results ↔ items.map f = results.map .ok := by
  -- The order in which items are gone over decides on faults alone.
  induction items generalizing results with
  | nil =>
    constructor
    · rintro ⟨⟩
      rfl
    · intro none
      rw [List.map_eq_nil_iff.mp none.symm]
      rfl
  | cons item rest ih =>
    rw [mapFromLast, bind_eq_ok_iff]
    constructor
    · rintro ⟨others, later, step⟩
      obtain ⟨first, done, ⟨⟩⟩ := bind_eq_ok_iff.mp step
      rw [List.map_cons, List.map_cons, done, ih.mp later]
    · intro each
      cases results with
      | nil => cases each
      | cons first others =>
        obtain ⟨done, later⟩ := List.cons.inj each
        exact ⟨others, ih.mpr later, bind_eq_ok_iff.mpr ⟨first, done, rfl⟩⟩

/-- Functions that do the same to each item do the same to all of them. -/
theorem mapFromLast_congr {f g : Value → Except Fault Value} {items : List Value}
    (same : ∀ item ∈ items, f item = g item) : mapFromLast f items = mapFromLast g items := by
  -- The last item goes first, and the order is the same for both.
  induction items with
  | nil => rfl
  | cons item rest ih =>
    obtain ⟨first, others⟩ := List.forall_mem_cons.mp same
    rw [mapFromLast, mapFromLast, ih others, first]

/-- An item lies less deep than its sequence. -/
theorem depth_item {item : Value} {items : List Value} (member : item ∈ items) :
    item.depth ≤ depthOfItems items := by
  induction items with
  | nil => cases member
  | cons first rest ih =>
    rw [depthOfItems]
    rcases List.mem_cons.mp member with rfl | later
    · exact Nat.le_max_left _ _
    · exact Nat.le_trans (ih later) (Nat.le_max_right _ _)

/-- A value lies less deep than its mapping. -/
theorem depth_entry {entry : Value × Value} {entries : List (Value × Value)}
    (member : entry ∈ entries) : entry.2.depth ≤ depthOfEntries entries := by
  induction entries with
  | nil => cases member
  | cons first rest ih =>
    rw [depthOfEntries]
    rcases List.mem_cons.mp member with rfl | later
    · exact Nat.le_max_left _ _
    · exact Nat.le_trans (ih later) (Nat.le_max_right _ _)

/-- A part goes no deeper than the whole. -/
theorem IsPart.depth_le {part whole : Value} (within : IsPart part whole) :
    part.depth ≤ whole.depth := by
  -- Each level on the way to the part adds one to the depth.
  induction within with
  | self => exact Nat.le_refl _
  | item member within ih =>
    show _ ≤ depthOfItems _ + 1
    exact Nat.le_succ_of_le (ih.trans (depth_item member))
  | entry member within ih =>
    show _ ≤ depthOfEntries _ + 1
    exact Nat.le_succ_of_le (ih.trans (depth_entry member))
  | tagged within ih =>
    show _ ≤ depth _ + 1
    exact Nat.le_succ_of_le ih

/-- Resolving a mapping does not make its values deeper. -/
theorem depth_mergeEntries {entries resolved : List (Value × Value)}
    (done : mergeEntries entries = .ok resolved) {value : Value}
    (member : value ∈ resolved.map Prod.snd) : value.depth ≤ depthOfEntries entries := by
  obtain ⟨entry, among, rfl⟩ := List.mem_map.mp member
  obtain ⟨source, own, part⟩ := exists_of_mem_mergeEntries done among
  exact part.depth_le.trans (depth_entry own)

/-- Any two amounts of fuel that are enough for a value resolve it alike. -/
theorem mergeWithin_congr {fuel fuel' : Nat} {value : Value} (enough : value.depth ≤ fuel)
    (enough' : value.depth ≤ fuel') : mergeWithin fuel value = mergeWithin fuel' value := by
  -- Every level takes one of the fuel, and leaves enough for the levels below it.
  induction fuel generalizing fuel' value with
  | zero =>
    cases value with
    | sequence items | mapping entries | tagged tag inner => simp [depth] at enough
    | _ => cases fuel' <;> rfl
  | succ fuel ih =>
    cases value with
    | sequence items =>
      rw [depth] at enough enough'
      obtain ⟨fuel', rfl⟩ := Nat.exists_eq_succ_of_ne_zero (Nat.ne_zero_of_lt enough')
      have same := mapFromLast_congr fun item member =>
        ih ((depth_item member).trans (Nat.le_of_succ_le_succ enough))
          ((depth_item member).trans (Nat.le_of_succ_le_succ enough'))
      rw [mergeWithin, mergeWithin, same]
    | mapping entries =>
      rw [depth] at enough enough'
      obtain ⟨fuel', rfl⟩ := Nat.exists_eq_succ_of_ne_zero (Nat.ne_zero_of_lt enough')
      rw [mergeWithin, mergeWithin]
      cases done : mergeEntries entries with
      | error fault => rfl
      | ok resolved =>
        -- The values of the resolved mapping are no deeper than those that it had.
        have same := mapFromLast_congr fun value member =>
          ih ((depth_mergeEntries done member).trans (Nat.le_of_succ_le_succ enough))
            ((depth_mergeEntries done member).trans (Nat.le_of_succ_le_succ enough'))
        simp only [bind, Except.bind, same]
    | tagged tag inner =>
      rw [depth] at enough enough'
      obtain ⟨fuel', rfl⟩ := Nat.exists_eq_succ_of_ne_zero (Nat.ne_zero_of_lt enough')
      rw [mergeWithin, mergeWithin,
        ih (Nat.le_of_succ_le_succ enough) (Nat.le_of_succ_le_succ enough')]
    | _ => cases fuel' <;> rfl

/-- A sequence is resolved item by item. -/
theorem merge_sequence_eq_ok_iff {items : List Value} {resolved : Value} :
    (sequence items).merge = .ok resolved ↔
      ∃ results, items.map merge = results.map .ok ∧ resolved = sequence results := by
  have unfolded : (sequence items).merge =
      mapFromLast (mergeWithin (depthOfItems items)) items >>= fun results =>
        pure (sequence results) := rfl
  -- The fuel for the whole is as good for an item as its own depth is.
  have each := mapFromLast_congr fun item (member : item ∈ items) =>
    mergeWithin_congr (depth_item member) (Nat.le_refl item.depth)
  rw [unfolded, each, bind_eq_ok_iff]
  simp only [mapFromLast_eq_ok_iff, pure, Except.pure, Except.ok.injEq, eq_comm (a := resolved)]
  rfl

/-- A mapping is resolved by itself, and then value by value. -/
theorem merge_mapping_eq_ok_iff {entries : List (Value × Value)} {resolved : Value} :
    (mapping entries).merge = .ok resolved ↔
      ∃ own results, mergeEntries entries = .ok own ∧
        (own.map Prod.snd).map merge = results.map .ok ∧
        resolved = mapping ((own.map Prod.fst).zip results) := by
  have unfolded : (mapping entries).merge =
      mergeEntries entries >>= fun own =>
        mapFromLast (mergeWithin (depthOfEntries entries)) (own.map Prod.snd) >>= fun results =>
          pure (mapping ((own.map Prod.fst).zip results)) := rfl
  rw [unfolded, bind_eq_ok_iff]
  refine exists_congr fun own => ?_
  -- The values of the resolved mapping are no deeper, so that their own depths are enough.
  by_cases done : mergeEntries entries = .ok own
  · have each := mapFromLast_congr fun value (member : value ∈ own.map Prod.snd) =>
      mergeWithin_congr (depth_mergeEntries done member) (Nat.le_refl value.depth)
    rw [each, bind_eq_ok_iff]
    simp only [done, true_and, mapFromLast_eq_ok_iff, pure, Except.pure, Except.ok.injEq,
      eq_comm (a := resolved)]
    rfl
  · simp [done]

/-- What stands behind a tag is resolved by itself. -/
theorem merge_tagged_eq_ok_iff {tag : String} {value resolved : Value} :
    (tagged tag value).merge = .ok resolved ↔
      ∃ result, value.merge = .ok result ∧ resolved = tagged tag result := by
  -- The tag takes one of the fuel, and what is left is the depth of the value behind it.
  have unfolded : (tagged tag value).merge =
      value.merge >>= fun result => pure (tagged tag result) := rfl
  rw [unfolded, bind_eq_ok_iff]
  simp only [pure, Except.pure, Except.ok.injEq, eq_comm (a := resolved)]

/-! ### Trees -/

/-- The items of a sequence become those of its tree. -/
theorem itemNodes_eq_map (items : List Value) : itemNodes items = items.map toNode := by
  induction items with
  | nil => rfl
  | cons item rest ih => rw [itemNodes, ih, List.map_cons]

/-- The entries of a mapping become those of its tree, under the display texts of their keys. -/
theorem entryNodes_eq_map (entries : List (Value × Value)) :
    entryNodes entries = entries.map fun entry => (entry.1.toNode.text, entry.2.toNode) := by
  induction entries with
  | nil => rfl
  | cons entry rest ih => rw [entryNodes, ih, List.map_cons]

/-- The tree of a number has no parts but itself. -/
theorem isPart_number {part : Node} {n : Number} (within : part.IsPart n.toNode) :
    part = n.toNode := by
  cases n with
  | integer i =>
    rw [Number.toNode] at within ⊢
    split at within <;> cases within <;> simp_all
  | float x =>
    rw [Number.toNode] at within ⊢
    cases within
    rfl

/-- The mapping with the merge key is there in the tree of a resolved mapping exactly where the
mapping keeps a merge key. -/
theorem mergeKey_mem_keys_iff {entries : List (Value × Value)} {resolved : Value}
    {shown : List (String × Node)} (differ : KeysDiffer entries)
    (done : (mapping entries).merge = .ok resolved) (tree : resolved.toNode = .mapping shown) :
    "<<" ∈ Entries.keys shown ↔ keepsMergeKey entries = true := by
  obtain ⟨own, results, merged, each, rfl⟩ := merge_mapping_eq_ok_iff.mp done
  have same : (own.map Prod.fst).length = results.length := by
    simpa using congrArg List.length each
  -- The values change, and the keys stay as they are.
  have keys : ((own.map Prod.fst).zip results).map Prod.fst = own.map Prod.fst :=
    List.map_fst_zip same.le
  rw [toNode, Node.mapping.injEq] at tree
  rw [← tree, Entries.mem_keys_ofList, entryNodes_eq_map, List.map_map,
    ← any_showsMergeKey_mergeEntries differ merged, List.any_eq_true, List.mem_map]
  -- A key of the tree is the display text of a key that was resolved.
  constructor
  · rintro ⟨entry, member, text⟩
    have key : entry.1 ∈ own.map Prod.fst := keys ▸ List.mem_map_of_mem member
    obtain ⟨source, among, name⟩ := List.mem_map.mp key
    exact ⟨source, among, name ▸ (showsMergeKey_iff entry.1).mpr text⟩
  · rintro ⟨source, among, text⟩
    have key : source.1 ∈ ((own.map Prod.fst).zip results).map Prod.fst := by
      rw [keys]
      exact List.mem_map_of_mem among
    obtain ⟨entry, member, name⟩ := List.mem_map.mp key
    refine ⟨entry, member, ?_⟩
    show entry.1.toNode.text = "<<"
    rw [name]
    exact (showsMergeKey_iff source.1).mp text

/-- Every result was made from one of the values. -/
theorem exists_merge_eq_ok {values results : List Value}
    (each : values.map merge = results.map .ok) {result : Value} (among : result ∈ results) :
    ∃ value ∈ values, value.merge = .ok result := by
  have made : Except.ok result ∈ values.map merge := each ▸ List.mem_map_of_mem among
  obtain ⟨value, listed, done⟩ := List.mem_map.mp made
  exact ⟨value, listed, done⟩

/-- Whether every mapping in the tree of what a value is resolved to is the tree of a mapping of the
value, resolved by itself. -/
def HasSources (value : Value) : Prop :=
  ∀ {resolved : Value} {shown : List (String × Node)}, value.merge = .ok resolved →
    (Node.mapping shown).IsPart resolved.toNode →
    ∃ entries own, IsPart (mapping entries) value ∧ (mapping entries).merge = .ok own ∧
      own.toNode = .mapping shown

/-- A number is resolved to itself, and no mapping is in its tree. -/
theorem hasSources_number (n : Number) : HasSources (number n) := by
  rintro resolved shown ⟨⟩ within
  rw [toNode] at within
  have whole := isPart_number within
  cases n with
  | integer i =>
    rw [Number.toNode] at whole
    split at whole <;> cases whole
  | float x => cases whole

/-- The mappings of a sequence are those of its items. -/
theorem hasSources_sequence {items : List Value} (parts : ∀ item ∈ items, HasSources item) :
    HasSources (sequence items) := by
  intro resolved shown done within
  obtain ⟨results, each, rfl⟩ := merge_sequence_eq_ok_iff.mp done
  rw [toNode, itemNodes_eq_map] at within
  cases within with
  | item member inner =>
    -- What lies within an item of the result comes from the item that was merged into it.
    obtain ⟨result, among, rfl⟩ := List.mem_map.mp member
    obtain ⟨item, listed, done⟩ := exists_merge_eq_ok each among
    obtain ⟨entries, own, part, found⟩ := parts item listed done inner
    exact ⟨entries, own, .item listed part, found⟩

/-- The mappings of a mapping are its own tree and those of values that are no deeper than the
values it had. -/
theorem hasSources_mapping {entries : List (Value × Value)}
    (parts : ∀ value : Value, value.depth ≤ depthOfEntries entries → HasSources value) :
    HasSources (mapping entries) := by
  intro resolved shown done within
  obtain ⟨own, results, merged, each, rfl⟩ := merge_mapping_eq_ok_iff.mp done
  have tree : (mapping ((own.map Prod.fst).zip results)).toNode =
      .mapping (Entries.ofList (entryNodes ((own.map Prod.fst).zip results))) := by
    rw [toNode]
  rw [tree] at within
  cases within with
  -- The whole tree is that of the mapping itself.
  | self => exact ⟨entries, _, .self, done, tree⟩
  | entry member inner =>
    -- The value lay in one of the values before, from which it was perhaps merged.
    have put := Entries.mem_of_mem_ofList member
    rw [entryNodes_eq_map] at put
    obtain ⟨⟨key, result⟩, among, rfl⟩ := List.mem_map.mp put
    obtain ⟨value, listed, done⟩ := exists_merge_eq_ok each (List.of_mem_zip among).2
    obtain ⟨kept, there, rfl⟩ := List.mem_map.mp listed
    obtain ⟨source, held, part⟩ := exists_of_mem_mergeEntries merged there
    have shallow := part.depth_le.trans (depth_entry held)
    obtain ⟨entries, own, deeper, found⟩ := parts kept.2 shallow done inner
    exact ⟨entries, own, .entry held (deeper.trans part), found⟩

/-- The mappings behind a tag are those of the value. -/
theorem hasSources_tagged {tag : String} {value : Value} (part : HasSources value) :
    HasSources (tagged tag value) := by
  intro resolved shown done within
  obtain ⟨result, behind, rfl⟩ := merge_tagged_eq_ok_iff.mp done
  rw [toNode] at within
  obtain ⟨entries, own, inner, found⟩ := part behind within
  exact ⟨entries, own, .tagged inner, found⟩

/-- Every mapping in the tree of a resolved value has its source in the value. -/
theorem hasSources (value : Value) : HasSources value := by
  -- What is merged moves between levels, so that the induction is on the depth of the value.
  induction deep : value.depth using Nat.strongRecOn generalizing value with
  | _ depth ih =>
    subst deep
    cases value with
    | sequence items =>
      exact hasSources_sequence fun item member =>
        ih item.depth (Nat.lt_succ_of_le (depth_item member)) item rfl
    | mapping entries =>
      exact hasSources_mapping fun value shallow =>
        ih value.depth (Nat.lt_succ_of_le shallow) value rfl
    | tagged tag inner =>
      exact hasSources_tagged (ih inner.depth (Nat.lt_succ_self _) inner rfl)
    | number n => exact hasSources_number n
    | null | bool | string =>
      intro resolved shown done within
      cases done
      cases within

mutual

/-- Whether no mapping in a value keeps the key of a merge. -/
def keepsNoMergeKey : Value → Bool
  | sequence items => noItemKeepsMergeKey items
  | mapping entries => !keepsMergeKey entries && noEntryKeepsMergeKey entries
  | tagged _ value => keepsNoMergeKey value
  | _ => true

def noItemKeepsMergeKey : List Value → Bool
  | [] => true
  | item :: rest => keepsNoMergeKey item && noItemKeepsMergeKey rest

def noEntryKeepsMergeKey : List (Value × Value) → Bool
  | [] => true
  | (_, value) :: rest => keepsNoMergeKey value && noEntryKeepsMergeKey rest

end

/-- Where no item keeps a merge key, each of them does not. -/
theorem keepsNoMergeKey_item {items : List Value} (none : noItemKeepsMergeKey items = true) :
    ∀ item ∈ items, item.keepsNoMergeKey = true := by
  induction items with
  | nil => simp
  | cons item rest ih =>
    rw [noItemKeepsMergeKey, Bool.and_eq_true] at none
    exact List.forall_mem_cons.mpr ⟨none.1, ih none.2⟩

/-- Where no value of a mapping keeps a merge key, each of them does not. -/
theorem keepsNoMergeKey_entry {entries : List (Value × Value)}
    (none : noEntryKeepsMergeKey entries = true) :
    ∀ entry ∈ entries, entry.2.keepsNoMergeKey = true := by
  induction entries with
  | nil => simp
  | cons entry rest ih =>
    rw [noEntryKeepsMergeKey, Bool.and_eq_true] at none
    exact List.forall_mem_cons.mpr ⟨none.1, ih none.2⟩

/-- In a value that keeps no merge key no part keeps one. -/
theorem keepsMergeKey_of_isPart {value : Value} {entries : List (Value × Value)}
    (part : IsPart (mapping entries) value) (none : value.keepsNoMergeKey = true) :
    keepsMergeKey entries = false := by
  -- Each level of the value is asked, and with it everything below.
  induction part with
  | self =>
    rw [keepsNoMergeKey, Bool.and_eq_true, Bool.not_eq_true'] at none
    exact none.1
  | item member within ih => exact ih (keepsNoMergeKey_item none _ member)
  | entry member within ih =>
    rw [keepsNoMergeKey, Bool.and_eq_true] at none
    exact ih (keepsNoMergeKey_entry none.2 _ member)
  | tagged within ih => exact ih none

end ToolPolicy.Yaml.Value
