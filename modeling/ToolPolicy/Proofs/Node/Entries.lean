import Mathlib.Data.List.Induction
import Mathlib.Data.List.Nodup
import ToolPolicy.Node.Entries

/-! Which entries a mapping has that is put together from a list of entries: each key where it was
given first, with the value that was given last. -/

namespace ToolPolicy.Entries

variable {α : Type}

/-- What is found under a key is an entry. -/
theorem mem_of_lookup {entries : List (String × α)} {key : String} {value : α}
    (found : entries.lookup key = some value) : (key, value) ∈ entries := by
  obtain ⟨before, after, rfl, -⟩ := List.lookup_eq_some_iff.mp found
  simp

/-- In a mapping with distinct keys an entry is found under its key. -/
theorem lookup_of_mem {entries : List (String × α)} (distinct : (keys entries).Nodup)
    {key : String} {value : α} (member : (key, value) ∈ entries) :
    entries.lookup key = some value := by
  obtain ⟨before, after, rfl⟩ := List.append_of_mem member
  refine List.lookup_eq_some_iff.mpr ⟨before, after, rfl, fun entry early => ?_⟩
  -- An entry before it with the same key would be a second one.
  rw [keys, List.map_append, List.nodup_append] at distinct
  have apart := distinct.2.2 entry.1 (List.mem_map_of_mem early) key (by simp)
  simpa using Ne.symm apart

/-- Nothing is found under a key that no entry has. -/
theorem lookup_eq_none_iff {entries : List (String × α)} {key : String} :
    entries.lookup key = none ↔ key ∉ keys entries := by
  simp only [List.lookup_eq_none_iff, keys, List.mem_map, not_exists, not_and]
  constructor
  · intro apart entry member same
    simpa [same] using apart entry member
  · intro apart entry member
    simpa using fun same : key = entry.1 => apart entry member same.symm

/-- Looking up from the end finds nothing under the same keys. -/
theorem lookup_reverse_eq_none_iff {entries : List (String × α)} {key : String} :
    entries.reverse.lookup key = none ↔ key ∉ keys entries := by
  rw [lookup_eq_none_iff, keys, List.map_reverse, List.mem_reverse, keys]

/-- A new key comes last. -/
theorem put_of_not_mem {entries : List (String × α)} {key : String} (value : α)
    (new : key ∉ entries.map Prod.fst) : put entries key value = entries ++ [(key, value)] := by
  -- The key is passed by each entry, as none of them has it.
  induction entries with
  | nil => rfl
  | cons entry rest ih =>
    rw [List.map_cons, List.mem_cons, not_or] at new
    rw [put, if_neg (Ne.symm new.1), ih new.2, List.cons_append]

/-- Entries with distinct keys make up a mapping as they are. -/
theorem ofList_eq {entries : List (String × α)}
    (distinct : (entries.map Prod.fst).Nodup) : ofList entries = entries := by
  -- No entry meets its key among those before it, so that each comes last in its turn.
  have general (known : List (String × α))
      (fresh : ∀ key ∈ known.map Prod.fst, key ∉ entries.map Prod.fst) :
      entries.foldl (fun es entry => put es entry.1 entry.2) known = known ++ entries := by
    induction entries generalizing known with
    | nil => simp
    | cons entry rest ih =>
      obtain ⟨other, others⟩ := List.nodup_cons.mp distinct
      have new : entry.1 ∉ known.map Prod.fst := fun member => fresh entry.1 member (by simp)
      rw [List.foldl_cons, put_of_not_mem entry.2 new, ih others]
      · simp
      · intro key member
        rw [List.map_append, List.mem_append] at member
        rcases member with member | member
        · exact fun later => fresh key member (List.mem_cons_of_mem _ later)
        · obtain rfl : key = entry.1 := by simpa using member
          exact other
  exact general [] (by simp)

/-- The entry that is given last is put in last. -/
theorem ofList_append_singleton (entries : List (String × α)) (entry : String × α) :
    ofList (entries ++ [entry]) = put (ofList entries) entry.1 entry.2 := by
  rw [ofList, List.foldl_append]
  rfl

/-- A mapping has each key at the place where it was given first. -/
theorem keys_ofList (entries : List (String × α)) :
    keys (ofList entries) = (keys entries).eraseDups := by
  -- The induction takes the entry that is put in last from the end.
  induction entries using List.reverseRecOn with
  | nil => rfl
  | append_singleton entries entry ih =>
    have apart : keys (entries ++ [entry]) = keys entries ++ [entry.1] := List.map_append
    rw [ofList_append_singleton, keys_put, ih, apart, List.eraseDups_append]
    -- A key that was given before keeps its place, and a new one comes last.
    by_cases known : entry.1 ∈ keys entries
    · have nothing : [entry.1].removeAll (keys entries) = [] := by
        simpa [List.removeAll] using known
      rw [if_pos (List.mem_eraseDups.mpr known), nothing, List.eraseDups_nil, List.append_nil]
    · have whole : [entry.1].removeAll (keys entries) = [entry.1] := by
        simpa [List.removeAll] using known
      rw [if_neg (mt List.mem_eraseDups.mp known), whole]
      rfl

/-- A mapping has the keys that were given. -/
theorem mem_keys_ofList {entries : List (String × α)} {key : String} :
    key ∈ keys (ofList entries) ↔ key ∈ entries.map Prod.fst := by
  rw [keys_ofList, List.mem_eraseDups, keys]

/-- Putting an entry in keeps the keys distinct. -/
theorem nodup_keys_put {entries : List (String × α)} (distinct : (keys entries).Nodup)
    (key : String) (value : α) : (keys (put entries key value)).Nodup := by
  rw [keys_put]
  split
  · exact distinct
  · next new =>
    rw [← List.concat_eq_append]
    exact distinct.concat new

/-- The keys of a mapping are distinct. -/
theorem nodup_keys_ofList (entries : List (String × α)) : (keys (ofList entries)).Nodup := by
  induction entries using List.reverseRecOn with
  | nil => exact List.nodup_nil
  | append_singleton entries entry ih =>
    rw [ofList_append_singleton]
    exact nodup_keys_put ih entry.1 entry.2

/-- Under each key stands the value that was given last. -/
theorem lookup_ofList (entries : List (String × α)) (key : String) :
    (ofList entries).lookup key = entries.reverse.lookup key := by
  induction entries using List.reverseRecOn with
  | nil => rfl
  | append_singleton entries entry ih =>
    rw [ofList_append_singleton, List.reverse_append, List.reverse_singleton,
      List.singleton_append]
    -- The last entry decides on its own key, and leaves all others as they were.
    by_cases same : key = entry.1
    · subst same
      rw [lookup_put_self, List.lookup_cons_self]
    · have apart : (key == entry.1) = false := by simpa using same
      rw [lookup_put_of_ne _ _ same, ih, List.lookup_cons, apart]

/-- The entries that no later entry has the key of. -/
def lasting : List (String × α) → List (String × α)
  | [] => []
  | entry :: rest => if entry.1 ∈ keys rest then lasting rest else entry :: lasting rest

/-- The lasting entries are those that are found from the end. -/
theorem mem_lasting {entries : List (String × α)} {key : String} {value : α} :
    (key, value) ∈ lasting entries ↔ entries.reverse.lookup key = some value := by
  induction entries with
  | nil => simp [lasting]
  | cons entry rest ih =>
    rw [List.reverse_cons, List.lookup_append, lasting]
    by_cases same : key = entry.1
    · -- The first entry is found if there is no other with its key.
      subst same
      rw [List.lookup_cons_self]
      by_cases later : entry.1 ∈ keys rest
      · obtain ⟨other, found⟩ :=
          Option.ne_none_iff_exists'.mp (mt lookup_reverse_eq_none_iff.mp (not_not.mpr later))
        rw [if_pos later, ih, found, Option.some_or]
      · have none := lookup_reverse_eq_none_iff.mpr later
        rw [if_neg later, List.mem_cons, ih, none, Option.none_or]
        simp [Prod.ext_iff, eq_comm]
    · have apart : (key == entry.1) = false := by simpa using same
      have other : (key, value) ≠ entry := fun equal => same (congrArg Prod.fst equal)
      rw [List.lookup_cons, apart, List.lookup_nil, Option.or_none, ← ih]
      -- An entry with another key is not what is looked for, whether it lasts or not.
      split
      · rfl
      · rw [List.mem_cons, or_iff_right other]

/-- The keys of the lasting entries are distinct. -/
theorem nodup_keys_lasting (entries : List (String × α)) : (keys (lasting entries)).Nodup := by
  induction entries with
  | nil => exact List.nodup_nil
  | cons entry rest ih =>
    rw [lasting]
    split
    · exact ih
    · next fresh =>
      refine List.nodup_cons.mpr ⟨fun member => ?_, ih⟩
      -- A lasting entry is one of those it was taken from.
      obtain ⟨⟨key, value⟩, among, rfl⟩ := List.mem_map.mp member
      have found := lookup_reverse_eq_none_iff.not.mp
        (Option.ne_none_iff_exists'.mpr ⟨value, mem_lasting.mp among⟩)
      exact found fresh

/-- A mapping consists of the lasting entries: those with a later entry of the same key are lost,
and no others. -/
theorem ofList_perm_lasting (entries : List (String × α)) :
    (ofList entries).Perm (lasting entries) := by
  have distinct := nodup_keys_ofList entries
  refine (List.perm_ext_iff_of_nodup distinct.of_map (nodup_keys_lasting entries).of_map).mpr ?_
  -- Both lists have distinct keys, so that it is enough to compare their members.
  rintro ⟨key, value⟩
  rw [mem_lasting, ← lookup_ofList]
  exact ⟨lookup_of_mem distinct, mem_of_lookup⟩

/-- What a mapping keeps of the entries that were given. -/
structure KeepsLast (given made : List (String × α)) : Prop where
  /-- Each key stands where it was given first. -/
  keys : keys made = (keys given).eraseDups
  /-- Under each key is the value that was given last. -/
  found : ∀ key, made.lookup key = given.reverse.lookup key
  /-- An entry is lost if a later one has its key, and only then. -/
  kept : made.Perm (lasting given)

/-- A mapping keeps the last value of each key. -/
theorem keepsLast_ofList (entries : List (String × α)) : KeepsLast entries (ofList entries) :=
  ⟨keys_ofList entries, lookup_ofList entries, ofList_perm_lasting entries⟩

/-- A mapping has the entries after which their keys were not given any more. -/
theorem mem_ofList {entries : List (String × α)} {entry : String × α} :
    entry ∈ ofList entries ↔
      ∃ before after, entries = before ++ entry :: after ∧ entry.1 ∉ keys after := by
  rw [(ofList_perm_lasting entries).mem_iff, mem_lasting, List.lookup_eq_some_iff]
  constructor
  -- Looking from the end, what comes first is what stands behind the entry.
  · rintro ⟨after, before, turned, apart⟩
    refine ⟨before.reverse, after.reverse, ?_, fun member => ?_⟩
    · simpa using congrArg List.reverse turned
    · obtain ⟨later, among, same⟩ := List.mem_map.mp member
      simpa [same] using apart later (List.mem_reverse.mp among)
  · rintro ⟨before, after, rfl, last⟩
    refine ⟨after.reverse, before.reverse, by simp, fun later among => ?_⟩
    have member := List.mem_map_of_mem (f := Prod.fst) (List.mem_reverse.mp among)
    simpa using fun same : entry.1 = later.1 => last (same ▸ member)

/-- A mapping has no entries but those that were put in. -/
theorem mem_of_mem_ofList {entries : List (String × α)} {entry : String × α}
    (member : entry ∈ ofList entries) : entry ∈ entries := by
  obtain ⟨before, after, rfl, -⟩ := mem_ofList.mp member
  simp

end ToolPolicy.Entries
