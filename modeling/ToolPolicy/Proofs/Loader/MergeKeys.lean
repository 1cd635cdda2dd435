import ToolPolicy.Loader.Basic
import ToolPolicy.Proofs.Yaml.Merge

/-! The merge keys that are left in the tree of a policy file: the merge key of a mapping is
resolved once, and one that comes with what it merges stays. -/

namespace ToolPolicy.Loader

/-- A tree is what is read from a text, which is given as such or stands in a file. -/
def IsLoaded (limit : Nat) (text : String) (n : Node) : Prop :=
  loadText limit text = .ok n ∨
    ∃ path entry, readText limit path entry = .ok text ∧ load limit path entry = .ok n

/-- What stands under a key of a tree is part of it. -/
theorem isPart_of_get? {n value : Node} {key : String} (found : n.get? key = some value) :
    value.IsPart n := by
  obtain ⟨entries, rfl, looked⟩ := (Node.get?_eq_some_iff n key value).mp found
  exact .entry (Entries.mem_of_lookup looked) .self

/-- What is read from a text is null, or the tree of its value with the merge keys resolved. -/
theorem eq_null_or_exists_of_parse {text path : String} {n : Node}
    (parsed : parse text path = .ok n) :
    n = .null ∨ ∃ value resolved, Yaml.parse (dropMark text.toList) = .ok value ∧
      value.merge = .ok resolved ∧ n = resolved.toNode := by
  unfold parse at parsed
  dsimp only at parsed
  split at parsed
  · -- A text with nothing but blanks and comments is null, and is not parsed at all.
    cases parsed
    exact .inl rfl
  · split at parsed
    · next resolved found =>
      cases parsed
      obtain ⟨value, read, merged⟩ := bind_eq_ok_iff.mp found
      exact .inr ⟨value, resolved, read, merged, rfl⟩
    · cases parsed

/-- A text gives the same tree wherever it stands. -/
theorem IsLoaded.exists_parse {limit : Nat} {text : String} {n : Node}
    (loaded : IsLoaded limit text n) : ∃ path, parse text path = .ok n := by
  rcases loaded with given | ⟨path, entry, read, found⟩
  · obtain ⟨_, _, parsed⟩ := bind_eq_ok_iff.mp given
    exact ⟨memoryPath, parsed⟩
  · -- The text that is parsed is the one that was read from the file.
    obtain ⟨own, readAgain, parsed⟩ := bind_eq_ok_iff.mp found
    obtain rfl := Except.ok.inj (read.symm.trans readAgain)
    exact ⟨path, parsed⟩

/-- A mapping of a text and the mapping of the tree that it becomes. -/
structure Becomes (text : String) (entries : List (Yaml.Value × Yaml.Value))
    (shown : List (String × Node)) : Prop where
  inText : ∃ value, Yaml.parse (dropMark text.toList) = .ok value ∧
    (Yaml.Value.mapping entries).IsPart value
  inTree : ∃ resolved, (Yaml.Value.mapping entries).merge = .ok resolved ∧
    resolved.toNode = .mapping shown

/-- Every mapping of a tree was one of the text. -/
theorem IsLoaded.exists_becomes {limit : Nat} {text : String} {n : Node}
    (loaded : IsLoaded limit text n) {shown : List (String × Node)}
    (part : (Node.mapping shown).IsPart n) : ∃ entries, Becomes text entries shown := by
  obtain ⟨path, parsed⟩ := loaded.exists_parse
  rcases eq_null_or_exists_of_parse parsed with rfl | ⟨value, whole, read, merged, rfl⟩
  -- Null has no mappings in it.
  · cases part
  · obtain ⟨entries, resolved, inside, own, tree⟩ :=
      Yaml.Value.hasSources _ merged part
    exact ⟨entries, ⟨value, read, inside⟩, resolved, own, tree⟩

/-- A mapping of the tree has a merge key exactly where the mapping of the text keeps one. -/
theorem Becomes.mem_keys_iff {text : String} {entries : List (Yaml.Value × Yaml.Value)}
    {shown : List (String × Node)} (becomes : Becomes text entries shown) :
    "<<" ∈ Entries.keys shown ↔ Yaml.Value.keepsMergeKey entries = true := by
  -- The mapping was read as a whole and then resolved by itself.
  obtain ⟨value, read, inside⟩ := becomes.inText
  obtain ⟨resolved, own, tree⟩ := becomes.inTree
  -- The keys of a mapping that was read differ, so that it has at most one merge key.
  have differ := Yaml.isKeyed_of_parse read entries inside
  exact Yaml.Value.mergeKey_mem_keys_iff differ own tree

/--
Every mapping of what is read was one of the text, and it has a merge key exactly where that one
keeps it.

Where no mapping of the text keeps a merge key, there is none in the whole tree.
-/
theorem mergeKeys_left {limit : Nat} {text : String} {n : Node} (loaded : IsLoaded limit text n) :
    (∀ shown, (Node.mapping shown).IsPart n → ∃ entries, Becomes text entries shown ∧
      ("<<" ∈ Entries.keys shown ↔ Yaml.Value.keepsMergeKey entries = true)) ∧
    ((∀ value, Yaml.parse (dropMark text.toList) = .ok value → value.keepsNoMergeKey = true) →
      ∀ shown, (Node.mapping shown).IsPart n → "<<" ∉ Entries.keys shown) := by
  constructor
  · intro shown part
    obtain ⟨entries, becomes⟩ := loaded.exists_becomes part
    exact ⟨entries, becomes, becomes.mem_keys_iff⟩
  · intro none shown part left
    obtain ⟨entries, becomes⟩ := loaded.exists_becomes part
    obtain ⟨value, read, inside⟩ := becomes.inText
    -- A key that is left was kept by a mapping of the text, of which there is none.
    have kept := becomes.mem_keys_iff.mp left
    rw [Yaml.Value.keepsMergeKey_of_isPart inside (none value read)] at kept
    cases kept

/-- Three mappings, of which the last merges the other two. -/
def mergingText : String := "a: &a {x: 1}\nb: &b {y: 2}\nc:\n  <<: [*a, *b]\n  z: 3\n"

/-- The tree of the three mappings. -/
def mergedTree : Node := .mapping [("a", .mapping [("x", .int 1)]), ("b", .mapping [("y", .int 2)]),
  ("c", .mapping [("z", .int 3), ("x", .int 1), ("y", .int 2)])]

/-- Mappings without a merge key of their own are merged without leaving one. -/
theorem mergingText_resolved : ∃ n, IsLoaded defaultLimit mergingText n ∧
    n.same mergedTree = true ∧
    (∀ value, Yaml.parse (dropMark mergingText.toList) = .ok value →
      value.keepsNoMergeKey = true) ∧
    ∀ shown, (Node.mapping shown).IsPart n → "<<" ∉ Entries.keys shown := by
  have whole : (loadText defaultLimit mergingText).toOption.any (·.same mergedTree) = true := by
    decide +kernel
  have plain : (Yaml.parse (dropMark mergingText.toList)).toOption.all (·.keepsNoMergeKey) = true := by
    decide +kernel
  -- The check above is about the one value that the text is read as.
  have none : ∀ value, Yaml.parse (dropMark mergingText.toList) = .ok value →
      value.keepsNoMergeKey = true := by
    intro value read
    rw [read] at plain
    exact plain
  cases given : loadText defaultLimit mergingText with
  | error fault =>
    rw [given] at whole
    cases whole
  | ok n =>
    rw [given] at whole
    exact ⟨n, .inl given, whole, none, (mergeKeys_left (.inl given)).2 none⟩

/-- Three mappings, each of which merges the one before. -/
def chainedText : String := "a: &a {x: 1}\nb: &b\n  <<: *a\n  y: 2\nc:\n  <<: *b\n"

/-- What is merged still has its own merge key, which is not resolved any more. -/
theorem chainedText_left : ∃ n, IsLoaded defaultLimit chainedText n ∧
    ∃ shown, (Node.mapping shown).IsPart n ∧ "<<" ∈ Entries.keys shown := by
  -- The text is loaded by evaluation, and what it shows is then named part by part.
  have found : ((loadText defaultLimit chainedText).toOption.bind (·.get? "c")).any
      (fun c => (c.get? "<<").isSome) = true := by
    decide +kernel
  cases given : loadText defaultLimit chainedText with
  | error fault =>
    rw [given] at found
    cases found
  | ok n =>
    rw [given] at found
    -- The mapping under the last key is looked up, and in it the key of the merge.
    change (n.get? "c").any _ = true at found
    cases under : n.get? "c" with
    | none =>
      rw [under] at found
      cases found
    | some c =>
      rw [under] at found
      obtain ⟨value, held⟩ := Option.isSome_iff_exists.mp found
      obtain ⟨entries, rfl, looked⟩ := (Node.get?_eq_some_iff c "<<" value).mp held
      exact ⟨n, .inl given, entries, isPart_of_get? under,
        List.mem_map_of_mem (Entries.mem_of_lookup looked)⟩

end ToolPolicy.Loader
