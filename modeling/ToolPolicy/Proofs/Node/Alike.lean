import Mathlib.Data.List.Forall2
import Mathlib.Data.List.Perm.Subperm
import Mathlib.Data.Option.Basic
import ToolPolicy.Proofs.Node.Entries
import ToolPolicy.Proofs.Yaml.Part

/-! Trees that are equal but for the order of keys: what is looked up in one of them is there in the
other, too. -/

namespace ToolPolicy.Node

/-- What lies within a tree with distinct keys has distinct keys itself. -/
theorem IsKeyed.item {items : List Node} (keyed : (sequence items).IsKeyed) {item : Node}
    (member : item ∈ items) : item.IsKeyed :=
  fun entries within => keyed entries (.item member within)

/-- The values of a mapping with distinct keys have distinct keys themselves. -/
theorem IsKeyed.entry {entries : List (String × Node)} (keyed : (mapping entries).IsKeyed)
    {entry : String × Node} (member : entry ∈ entries) : entry.2.IsKeyed :=
  fun inner within => keyed inner (.entry member within)

/-- Items that are equal are so one by one. -/
theorem sameItems_iff {items others : List Node} :
    sameItems items others = true ↔ List.Forall₂ (fun a b => a.same b = true) items others := by
  -- Both lists are gone along together, and must end together.
  induction items generalizing others with
  | nil => cases others <;> simp [sameItems]
  | cons item rest ih => cases others <;> simp [sameItems, ih]

/-- Entries are equal to others where each of them has its value among these. -/
theorem sameEntries_iff {entries others : List (String × Node)} :
    sameEntries entries others = true ↔
      ∀ entry ∈ entries, ∃ value, others.lookup entry.1 = some value ∧
        entry.2.same value = true := by
  induction entries with
  | nil => simp [sameEntries]
  | cons entry rest ih =>
    obtain ⟨key, node⟩ := entry
    rw [sameEntries, Bool.and_eq_true, ih, List.forall_mem_cons]
    refine and_congr_left fun _ => ?_
    -- Under the key there is an equal value, or nothing at all.
    cases others.lookup key <;> simp

/-- A tree with distinct keys that is equal to another one. -/
structure Alike (a b : Node) : Prop where
  keyed : a.IsKeyed
  same : a.same b = true

/-- Equal mappings have the same keys in some order, and equal values under each of them. -/
theorem Alike.of_mapping {entries : List (String × Node)} {b : Node}
    (alike : Alike (mapping entries) b) :
    ∃ others, b = mapping others ∧ (Entries.keys entries).Perm (Entries.keys others) ∧
      ∀ key, Option.Rel Alike (entries.lookup key) (others.lookup key) := by
  obtain ⟨keyed, same⟩ := alike
  cases b with
  | mapping others =>
    rw [Node.same, Bool.and_eq_true, beq_iff_eq, sameEntries_iff] at same
    obtain ⟨length, found⟩ := same
    have distinct := keyed entries .self
    -- Each key of the first mapping is found in the second one.
    have within : Entries.keys entries ⊆ Entries.keys others := by
      intro key member
      obtain ⟨entry, among, rfl⟩ := List.mem_map.mp member
      obtain ⟨value, there, -⟩ := found entry among
      exact List.mem_map.mpr ⟨(entry.1, value), Entries.mem_of_lookup there, rfl⟩
    -- There are as many keys on the other side, so that it has no further ones.
    have keys : (Entries.keys entries).Perm (Entries.keys others) := by
      apply (distinct.subperm within).perm_of_length_le
      rw [Entries.keys, Entries.keys, List.length_map, List.length_map]
      exact Nat.le_of_eq length.symm
    refine ⟨others, rfl, keys, fun key => ?_⟩
    -- A key of one side is one of the other, and what is under it on both sides is equal.
    cases here : entries.lookup key with
    | none =>
      have absent : key ∉ Entries.keys others :=
        keys.mem_iff.not.mp (Entries.lookup_eq_none_iff.mp here)
      rw [Entries.lookup_eq_none_iff.mpr absent]
      exact .none
    | some node =>
      have member := Entries.mem_of_lookup here
      obtain ⟨value, there, equal⟩ := found (key, node) member
      rw [there]
      exact .some ⟨keyed.entry member, equal⟩
  | _ => simp [Node.same] at same

/-- Only a mapping is equal to a mapping. -/
theorem Alike.eq_mapping {a : Node} {others : List (String × Node)}
    (alike : Alike a (mapping others)) : ∃ entries, a = mapping entries := by
  have same := alike.same
  cases a with
  | mapping entries => exact ⟨entries, rfl⟩
  | _ => simp [Node.same] at same

/-- Under each key of equal trees there are equal values, or there is nothing. -/
theorem Alike.get? {a b : Node} (alike : Alike a b) (key : String) :
    Option.Rel Alike (a.get? key) (b.get? key) := by
  cases a with
  | mapping entries =>
    obtain ⟨others, rfl, -, found⟩ := alike.of_mapping
    exact found key
  | _ =>
    -- Nothing but a mapping has keys, on the other side, too.
    cases b with
    | mapping others =>
      obtain ⟨entries, other⟩ := alike.eq_mapping
      cases other
    | _ => exact .none

/-- Equal sequences have equal items. -/
theorem Alike.items? {a b : Node} (alike : Alike a b) :
    Option.Rel (List.Forall₂ Alike) a.items? b.items? := by
  obtain ⟨keyed, same⟩ := alike
  cases a with
  | sequence items =>
    cases b with
    | sequence others =>
      rw [Node.same, sameItems_iff] at same
      refine .some ?_
      -- Items at the same place are equal, and those of the first list have distinct keys.
      have each := List.forall₂_iff_zip.mp same
      exact List.forall₂_iff_zip.mpr ⟨each.1, fun member =>
        ⟨keyed.item (List.of_mem_zip member).1, each.2 member⟩⟩
    | _ => simp [Node.same] at same
  | _ =>
    cases b with
    | sequence others => simp [Node.same] at same
    | _ => exact .none

/-- Doubles that are equal as numbers are both zero, or neither is. -/
theorem isZero_eq_of_sameNumber {x y : Double} (same : x.sameNumber y = true) :
    x.isZero = y.isZero := by
  simp only [Double.sameNumber, Bool.and_eq_true, Bool.or_eq_true, beq_iff_eq] at same
  -- Doubles that are equal as numbers are the same, or both are some zero.
  rcases same.2 with rfl | ⟨first, second⟩
  · rfl
  · rw [first, second]

/-- Lists of one length are both empty, or neither is. -/
theorem isEmpty_eq_of_length {α β : Type} {as : List α} {bs : List β}
    (length : as.length = bs.length) : as.isEmpty = bs.isEmpty := by
  rw [Bool.eq_iff_iff, List.isEmpty_iff_length_eq_zero, List.isEmpty_iff_length_eq_zero, length]

/-- A value counts as present where an equal one does. -/
theorem Alike.isPresent {a b : Node} (alike : Alike a b) : a.isPresent = b.isPresent := by
  have same := alike.same
  -- Values of different kinds are not equal, and those without parts are the same.
  cases a <;> cases b <;> simp_all [Node.same, Node.isPresent]
  case float.float => exact isZero_eq_of_sameNumber same
  case sequence.sequence => exact isEmpty_eq_of_length (sameItems_iff.mp same).length_eq
  case mapping.mapping => exact isEmpty_eq_of_length same.1

/-- Equal trees are the same integer, or none of them is one. -/
theorem Alike.asInt? {a b : Node} (alike : Alike a b) : a.asInt? = b.asInt? := by
  have same := alike.same
  cases a <;> cases b <;> simp_all [Node.same, Node.asInt?]

/-- What is found in related values is related where each step keeps the relation. -/
theorem rel_bind {α β γ δ : Type} {r : α → β → Prop} {s : γ → δ → Prop} {x : Option α}
    {y : Option β} {f : α → Option γ} {g : β → Option δ} (related : Option.Rel r x y)
    (step : ∀ {a b}, r a b → Option.Rel s (f a) (g b)) : Option.Rel s (x.bind f) (y.bind g) := by
  cases related with
  | none => exact .none
  | some here => exact step here

/-- Of related values both are there, or neither is. -/
theorem isSome_eq_of_rel {α β : Type} {r : α → β → Prop} {x : Option α} {y : Option β}
    (related : Option.Rel r x y) : x.isSome = y.isSome := by
  cases related <;> rfl

/-- Under each key of equal trees equal values count as present, or nothing does. -/
theorem Alike.getPresent? {a b : Node} (alike : Alike a b) (key : String) :
    Option.Rel Alike (a.getPresent? key) (b.getPresent? key) := by
  have found := alike.get? key
  unfold Node.getPresent?
  generalize a.get? key = here at found
  generalize b.get? key = there at found
  cases found with
  | none => exact .none
  | some value =>
    rw [Option.filter_some, Option.filter_some, value.isPresent]
    -- Both values count, or both are passed over.
    split
    · exact .some value
    · exact .none

end ToolPolicy.Node
