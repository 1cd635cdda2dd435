import ToolPolicy.Proofs.Except
import ToolPolicy.Yaml.Parser

/-! The parts of trees and values, and the keys of what is read: in no part of it do two keys of a
mapping agree. -/

namespace ToolPolicy

/-- A part of a tree: the tree itself, or a part of an item or of the value of an entry. -/
inductive Node.IsPart (part : Node) : Node → Prop
  | self : IsPart part part
  | item {items : List Node} {item : Node} (member : item ∈ items) (within : IsPart part item) :
      IsPart part (.sequence items)
  | entry {entries : List (String × Node)} {entry : String × Node} (member : entry ∈ entries)
      (within : IsPart part entry.2) : IsPart part (.mapping entries)

/-- Whether the keys of a mapping are distinct, in any part of a tree. -/
def Node.IsKeyed (n : Node) : Prop :=
  ∀ entries, (mapping entries).IsPart n → (Entries.keys entries).Nodup

namespace Yaml

namespace Value

/-- A part of a value: the value itself, or a part of an item, of the value of an entry, or of what
stands behind a tag. Keys are no parts. -/
inductive IsPart (part : Value) : Value → Prop
  | self : IsPart part part
  | item {items : List Value} {item : Value} (member : item ∈ items) (within : IsPart part item) :
      IsPart part (sequence items)
  | entry {entries : List (Value × Value)} {entry : Value × Value} (member : entry ∈ entries)
      (within : IsPart part entry.2) : IsPart part (mapping entries)
  | tagged {tag : String} {value : Value} (within : IsPart part value) :
      IsPart part (tagged tag value)

/-- A part of a part is a part. -/
theorem IsPart.trans {inner middle outer : Value} (first : IsPart inner middle)
    (second : IsPart middle outer) : IsPart inner outer := by
  induction second with
  | self => exact first
  | item member within ih => exact .item member ih
  | entry member within ih => exact .entry member ih
  | tagged within ih => exact .tagged ih

/-- Whether no two keys agree, each taken with those that come after it. -/
def KeysDiffer (entries : List (Value × Value)) : Prop :=
  entries.Pairwise fun earlier later => earlier.1.same later.1 = false

/-- Whether no two keys of a mapping agree, in any part of a value. -/
def IsKeyed (value : Value) : Prop :=
  ∀ entries, IsPart (mapping entries) value → KeysDiffer entries

/-- A sequence is keyed if its items are. -/
theorem isKeyed_sequence {items : List Value} (parts : ∀ item ∈ items, item.IsKeyed) :
    (sequence items).IsKeyed := by
  rintro entries (_ | ⟨member, within⟩)
  exact parts _ member entries within

/-- A mapping is keyed if its keys differ and its values are keyed. -/
theorem isKeyed_mapping {entries : List (Value × Value)} (differ : KeysDiffer entries)
    (parts : ∀ entry ∈ entries, entry.2.IsKeyed) : (mapping entries).IsKeyed := by
  intro inner part
  cases part with
  | self => exact differ
  | entry member within => exact parts _ member inner within

/-- A tag makes no difference to whether a value is keyed. -/
theorem isKeyed_tagged {tag : String} {value : Value} (keyed : value.IsKeyed) :
    (tagged tag value).IsKeyed := by
  intro inner part
  cases part with
  | tagged within => exact keyed inner within

end Value

open Value

/-- What a plain scalar stands for has no parts. -/
theorem isKeyed_of_valueOf {text : String} {scalar : Scalar} {value : Value}
    (found : valueOf text scalar = .ok value) : value.IsKeyed := by
  intro entries part
  -- No scalar gives a collection.
  cases scalar <;> cases found <;> cases part

/-- The value of a scalar has no parts. -/
theorem isKeyed_of_scalarValue {tag : Option String} {accounted : Bool} {text : String}
    {presentation : Presentation} {value : Value}
    (found : scalarValue tag accounted text presentation = .ok value) : value.IsKeyed := by
  -- A string has no mapping within it.
  have string : (Value.string text).IsKeyed := by
    intro entries part
    cases part
  -- Whatever the tag asks for, the value is a string or one that the text stands for.
  unfold scalarValue at found
  split at found
  · split at found
    · unfold valueAs at found
      dsimp only at found
      split at found
      · exact isKeyed_of_valueOf found
      · cases found
    · cases found
      exact string
  · split at found
    · exact isKeyed_of_valueOf found
    · cases found
      exact string

/-- Whatever is read with so much fuel is keyed. -/
structure ReadsKeyed (a : Assembly) (fuel : Nat) : Prop where
  value : ∀ {depth path accounted r v after},
    readValue a fuel depth path accounted r = .ok (v, after) → v.IsKeyed
  items : ∀ {depth path index r items after},
    readItems a fuel depth path index r = .ok (items, after) → ∀ item ∈ items, item.IsKeyed
  entries : ∀ {depth path mark accounted known r entries after},
    readEntries a fuel depth path mark accounted known r = .ok (entries, after) →
      KeysDiffer known.reverse → (∀ entry ∈ known, entry.2.IsKeyed) →
        KeysDiffer entries.reverse ∧ ∀ entry ∈ entries, entry.2.IsKeyed

section

variable {a : Assembly} {fuel depth : Nat} {path : Path} {r after : Reader}

/-- A value is keyed if what is read with less fuel is. -/
theorem isKeyed_of_readValue (keyed : ReadsKeyed a fuel) {accounted : Bool} {v : Value}
    (found : readValue a (fuel + 1) depth path accounted r = .ok (v, after)) : v.IsKeyed := by
  rw [readValue] at found
  -- A value behind a tag is read again without it.
  have behind {tag : String} (found : (readValue a fuel depth path true r).map
      (fun read => (Value.tagged tag read.1, read.2)) = .ok (v, after)) : v.IsKeyed := by
    obtain ⟨⟨inner, left⟩, read, ⟨⟩⟩ := exists_of_map found
    exact isKeyed_tagged (keyed.value read)
  split at found
  · cases found
  · split at found
    · -- An alias stands for what its anchor holds.
      split at found
      · cases found
      · obtain ⟨⟨inner, left⟩, read, ⟨⟩⟩ := exists_of_map found
        exact keyed.value read
    · split at found
      · exact behind found
      · split at found
        · next read =>
          cases found
          exact isKeyed_of_scalarValue read
        · cases found
    -- The entries are collected in reverse, and turned around at the end.
    · split at found
      · exact behind found
      · cases found
      · obtain ⟨⟨items, left⟩, read, ⟨⟩⟩ := exists_of_map found
        exact isKeyed_sequence (keyed.items read)
    · split at found
      · exact behind found
      · cases found
      · obtain ⟨⟨entries, left⟩, read, ⟨⟩⟩ := exists_of_map found
        obtain ⟨differ, parts⟩ := keyed.entries read List.Pairwise.nil (by simp)
        exact isKeyed_mapping differ fun entry member => parts entry (List.mem_reverse.mp member)
    · cases found
    · cases found

/-- Items are keyed if what is read with less fuel is. -/
theorem isKeyed_of_readItems (keyed : ReadsKeyed a fuel) {index : Nat} {items : List Value}
    (found : readItems a (fuel + 1) depth path index r = .ok (items, after)) :
    ∀ item ∈ items, item.IsKeyed := by
  rw [readItems] at found
  split at found
  · cases found
  · cases found
    simp
  -- An item is read with the fuel that is left, and so are those behind it.
  · split at found
    · cases found
    · next item rest read =>
      obtain ⟨⟨others, left⟩, later, ⟨⟩⟩ := exists_of_map found
      exact List.forall_mem_cons.mpr ⟨keyed.value read, keyed.items later⟩

/-- Entries have different keys and keyed values if the known ones do, and if what is read with less
fuel does. -/
theorem keysDiffer_of_readEntries (keyed : ReadsKeyed a fuel) {mark : Mark} {accounted : Bool}
    {known entries : List (Value × Value)}
    (found : readEntries a (fuel + 1) depth path mark accounted known r = .ok (entries, after))
    (differ : KeysDiffer known.reverse) (parts : ∀ entry ∈ known, entry.2.IsKeyed) :
    KeysDiffer entries.reverse ∧ ∀ entry ∈ entries, entry.2.IsKeyed := by
  rw [readEntries] at found
  split at found
  · cases found
  · cases found
    exact ⟨differ, parts⟩
  · split at found
    · cases found
    · next key afterKey _ =>
      split at found
      · cases found
      · next fresh =>
        split at found
        · cases found
        · next value rest read =>
          refine keyed.entries found ?_ (List.forall_mem_cons.mpr ⟨keyed.value read, parts⟩)
          -- The new key was looked for among those before it.
          rw [KeysDiffer, List.reverse_cons, List.pairwise_append]
          refine ⟨differ, List.pairwise_singleton _ _, fun earlier among later last => ?_⟩
          rw [List.mem_singleton.mp last]
          simpa using List.find?_eq_none.mp fresh earlier (List.mem_reverse.mp among)

end

/-- Whatever is read is keyed. -/
theorem readsKeyed (a : Assembly) (fuel : Nat) : ReadsKeyed a fuel := by
  -- Values, items and entries are read by turns, each with the fuel that is left.
  induction fuel with
  | zero =>
    constructor
    · intro depth path accounted r v after found
      rw [readValue] at found
      cases found
    · intro depth path index r items after found
      rw [readItems] at found
      cases found
    · intro depth path mark accounted known r entries after found
      rw [readEntries] at found
      cases found
  | succ fuel ih =>
    exact ⟨isKeyed_of_readValue ih, isKeyed_of_readItems ih, keysDiffer_of_readEntries ih⟩

/-- In what is read from a text no two keys of a mapping agree. -/
theorem isKeyed_of_parse {cs : List Char} {value : Value} (read : parse cs = .ok value) :
    value.IsKeyed := by
  unfold parse at read
  dsimp only at read
  split at read
  · cases read
  · next v found =>
    split at read
    · cases read
    · cases read
      unfold Value.ofDocument at found
      split at found
      · cases found
        intro entries part
        cases part
      -- A document that is not empty is read as one value, with nothing left of it.
      · dsimp only at found
        split at found
        · cases found
        · next v after whole =>
          split at found
          · cases found
          · cases found
            exact (readsKeyed _ _).value whole

end Yaml

end ToolPolicy
