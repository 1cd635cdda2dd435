import Mathlib.Data.String.Basic
import ToolPolicy.Policy.Validator
import ToolPolicy.Proofs.Text.EditDistance

/-! Which known key is suggested for an unknown one: the earliest of the nearest ones that are near
enough. What is near enough depends on a length of the unknown key, and its characters and its bytes
do not always agree on that. -/

namespace ToolPolicy

/-- The number of edits that lead from a key to another. -/
def editsBetween (key other : String) : Nat := EditDistance.distance key.toList other.toList

/-- Few edits lead from a key to another, and fewer than a length. -/
def IsNear (key : String) (length : Nat) (other : String) : Prop :=
  editsBetween key other ≤ maxSuggestionDistance ∧ editsBetween key other < length

instance (key : String) (length : Nat) : DecidablePred (IsNear key length) :=
  fun _ => inferInstanceAs (Decidable (_ ∧ _))

/-- A known key is near enough, those before it that are near enough are farther, and those behind
it are not nearer. -/
def IsMeant (key : String) (length : Nat) (known : List String) (other : String) : Prop :=
  IsNear key length other ∧ ∃ before after, known = before ++ other :: after ∧
    (∀ k ∈ before, IsNear key length k → editsBetween key other < editsBetween key k) ∧
    ∀ k ∈ after, IsNear key length k → editsBetween key other ≤ editsBetween key k

/-- Suggestions for a key go by a length of it: what is meant is suggested, and nothing exactly
where no known key is near enough. -/
structure SuggestsBy (key : String) (length : Nat) (known : List String) : Prop where
  some_iff (other : String) : suggestKey key known = some other ↔ IsMeant key length known other
  none_iff : suggestKey key known = none ↔ ¬∃ other ∈ known, IsNear key length other

/-- Whatever length counts, one of the near known keys is meant where there are some. -/
theorem exists_isMeant {key : String} {length : Nat} {known : List String}
    (found : ∃ k ∈ known, IsNear key length k) : ∃ other, IsMeant key length known other := by
  -- The key that is meant is looked for from the end: the first key is weighed against the best
  -- behind it.
  induction known with
  | nil => simp at found
  | cons first rest ih =>
    by_cases behind : ∃ k ∈ rest, IsNear key length k
    · obtain ⟨other, near, before, after, rfl, farther, notNearer⟩ := ih behind
      by_cases better : IsNear key length first ∧ editsBetween key first ≤ editsBetween key other
      · -- The first key is as near as the one that is meant of the others.
        refine ⟨first, better.1, [], before ++ other :: after, rfl, nofun,
          fun k member nearToo => ?_⟩
        rcases List.mem_append.mp member with early | late
        · exact better.2.trans (farther k early nearToo).le
        · rcases List.mem_cons.mp late with rfl | late
          · exact better.2
          · exact better.2.trans (notNearer k late nearToo)
      -- A first key that is not near, or farther away, leaves the choice as it was.
      · refine ⟨other, near, first :: before, after, rfl, fun k member nearToo => ?_, notNearer⟩
        rcases List.mem_cons.mp member with rfl | early
        · exact Nat.lt_of_not_le fun le => better ⟨nearToo, le⟩
        · exact farther k early nearToo
    · -- Nothing behind the first key is near, so that it is the near one.
      have near : IsNear key length first := by simpa [behind] using found
      exact ⟨first, near, [], rest, rfl, nofun,
        fun k member nearToo => absurd ⟨k, member, nearToo⟩ behind⟩

/-! ### The rule in bytes -/

/-- What is taken for the nearest candidate is one of the candidates. -/
theorem mem_of_nearest {candidates : List (String × Nat)} {best : String × Nat}
    (taken : nearest candidates = some best) : best ∈ candidates := by
  induction candidates generalizing best with
  | nil => cases taken
  | cons first rest ih =>
    rw [nearest] at taken
    -- What is taken is the best of the rest, unless the first candidate is at least as near.
    split at taken
    · next other held =>
      split at taken
      · cases taken
        exact List.mem_cons_of_mem _ (ih held)
      · cases taken
        exact List.mem_cons_self
    · cases taken
      exact List.mem_cons_self

/-- A candidate with farther ones before it and no nearer ones behind it is taken. -/
theorem nearest_append {best : String × Nat} {before after : List (String × Nat)}
    (farther : ∀ c ∈ before, best.2 < c.2) (notNearer : ∀ c ∈ after, best.2 ≤ c.2) :
    nearest (before ++ best :: after) = some best := by
  -- Candidates in front are farther, so that none of them takes the place of the best.
  induction before with
  | nil =>
    rw [List.nil_append, nearest]
    split
    · next other held => exact if_neg (Nat.not_lt.mpr (notNearer other (mem_of_nearest held)))
    · rfl
  | cons first rest ih =>
    have later := ih fun c member => farther c (List.mem_cons_of_mem _ member)
    rw [List.cons_append, nearest, later]
    exact if_pos (farther first List.mem_cons_self)

/-- The candidates are the known keys that are near in bytes, in their order. -/
theorem suggestions_eq (key : String) (known : List String) :
    suggestions key known =
      (known.filter (IsNear key key.utf8ByteSize ·)).map fun k => (k, editsBetween key k) := by
  rw [suggestions, List.filter_map]
  congr 1
  exact List.filter_congr fun k _ => (Bool.decide_and _ _).symm

/-- The known key that is meant in bytes is suggested. -/
theorem IsMeant.suggestKey {key : String} {known : List String} {other : String}
    (meant : IsMeant key key.utf8ByteSize known other) : suggestKey key known = some other := by
  obtain ⟨near, before, after, rfl, farther, notNearer⟩ := meant
  -- The candidates are split where the known keys are, and only near keys are among them.
  rw [ToolPolicy.suggestKey, suggestions_eq, List.filter_append, List.filter_cons_of_pos (by simpa),
    List.map_append, List.map_cons, nearest_append]
  · rfl
  · intro c member
    obtain ⟨k, kept, rfl⟩ := List.mem_map.mp member
    obtain ⟨member, nearToo⟩ := List.mem_filter.mp kept
    exact farther k member (of_decide_eq_true nearToo)
  · intro c member
    obtain ⟨k, kept, rfl⟩ := List.mem_map.mp member
    obtain ⟨member, nearToo⟩ := List.mem_filter.mp kept
    exact notNearer k member (of_decide_eq_true nearToo)

/-- Nothing is suggested where no known key is near in bytes. -/
theorem suggestKey_eq_none {key : String} {known : List String}
    (missing : ¬∃ k ∈ known, IsNear key key.utf8ByteSize k) : suggestKey key known = none := by
  have empty : known.filter (IsNear key key.utf8ByteSize ·) = [] :=
    List.filter_eq_nil_iff.mpr fun k member near => missing ⟨k, member, of_decide_eq_true near⟩
  rw [suggestKey, suggestions_eq, empty]
  rfl

/-- Suggestions go by the length in bytes. -/
theorem suggestsBy_bytes (key : String) (known : List String) :
    SuggestsBy key key.utf8ByteSize known := by
  by_cases found : ∃ k ∈ known, IsNear key key.utf8ByteSize k
  · obtain ⟨best, meant⟩ := exists_isMeant found
    have suggested := meant.suggestKey
    refine ⟨fun other => ⟨fun again => ?_, IsMeant.suggestKey⟩, by simp [suggested, found]⟩
    -- There is only one suggestion, and it is the key that is meant.
    cases suggested.symm.trans again
    exact meant
  · have nothing := suggestKey_eq_none found
    refine ⟨fun other => ?_, by simp [nothing, found]⟩
    rw [nothing]
    refine ⟨nofun, fun meant => ?_⟩
    exact nomatch nothing.symm.trans meant.suggestKey

/-! ### Characters and bytes -/

/-- What is near by a length is near by a larger one. -/
theorem IsNear.mono {key other : String} {n m : Nat} (near : IsNear key n other) (le : n ≤ m) :
    IsNear key m other := ⟨near.1, near.2.trans_le le⟩

/-- A known key that is meant is not farther than any other one that is near. -/
theorem IsMeant.le {key other : String} {length : Nat} {known : List String}
    (meant : IsMeant key length known other) {k : String} (member : k ∈ known)
    (near : IsNear key length k) : editsBetween key other ≤ editsBetween key k := by
  obtain ⟨_, before, after, rfl, farther, notNearer⟩ := meant
  rcases List.mem_append.mp member with early | late
  · exact (farther k early near).le
  · rcases List.mem_cons.mp late with rfl | late
    · exact Nat.le_refl _
    · exact notNearer k late near

/-- Where a known key is near by the smaller one of two lengths, both mean the same known key. -/
theorem isMeant_iff_of_le {key : String} {n m : Nat} {known : List String} (le : n ≤ m)
    (found : ∃ k ∈ known, IsNear key n k) (other : String) :
    IsMeant key m known other ↔ IsMeant key n known other := by
  constructor
  · intro meant
    -- A key that is near by the smaller length is a candidate by the larger one, too.
    obtain ⟨k, member, near⟩ := found
    have nearest := meant.le member (near.mono le)
    obtain ⟨nearby, before, after, split, farther, notNearer⟩ := meant
    exact ⟨⟨nearby.1, nearest.trans_lt near.2⟩, before, after, split,
      fun k member near => farther k member (near.mono le),
      fun k member near => notNearer k member (near.mono le)⟩
  · rintro ⟨near, before, after, split, farther, notNearer⟩
    -- A key that is near by the larger length only is farther than all that are near by the other.
    have beyond (k : String) (nearby : IsNear key m k) (not : ¬IsNear key n k) :
        editsBetween key other < editsBetween key k :=
      near.2.trans_le (Nat.le_of_not_lt fun below => not ⟨nearby.1, below⟩)
    refine ⟨near.mono le, before, after, split, fun k member nearby => ?_,
      fun k member nearby => ?_⟩
    · by_cases nearToo : IsNear key n k
      · exact farther k member nearToo
      · exact beyond k nearby nearToo
    · by_cases nearToo : IsNear key n k
      · exact notNearer k member nearToo
      · exact (beyond k nearby nearToo).le

/-- Suggestions that go by a length go by a smaller one, too, exactly where that leaves a near known
key, if there was one. -/
theorem SuggestsBy.of_le_iff {key : String} {n m : Nat} {known : List String}
    (suggests : SuggestsBy key m known) (le : n ≤ m) :
    SuggestsBy key n known ↔
      ((∃ k ∈ known, IsNear key m k) → ∃ k ∈ known, IsNear key n k) := by
  constructor
  · intro smaller
    -- Both rules suggest nothing for the same keys, which is when no key is near.
    have same := suggests.none_iff.symm.trans smaller.none_iff
    exact (not_iff_not.mp same).mp
  · intro kept
    by_cases found : ∃ k ∈ known, IsNear key n k
    · have larger : ∃ k ∈ known, IsNear key m k :=
        found.imp fun k held => ⟨held.1, held.2.mono le⟩
      refine ⟨fun other => ?_, ?_⟩
      -- Where a key is near within the smaller distance, both rules mean the same key.
      · rw [suggests.some_iff, isMeant_iff_of_le le found]
      · rw [suggests.none_iff, not_iff_not]
        exact iff_of_true larger found
    · have missing : ¬∃ k ∈ known, IsNear key m k := fun larger => found (kept larger)
      have nothing := suggests.none_iff.mpr missing
      refine ⟨fun other => ?_, iff_of_true nothing found⟩
      rw [nothing]
      refine ⟨nofun, fun ⟨near, before, after, split, _⟩ => ?_⟩
      exact absurd ⟨other, by simp [split], near⟩ found

/-- No key has more characters than bytes. -/
theorem length_le_utf8ByteSize (key : String) : key.length ≤ key.utf8ByteSize := by
  -- Every character has at least one byte.
  have general (cs : List Char) : cs.length ≤ String.utf8Len cs := by
    induction cs with
    | nil => exact Nat.le_refl 0
    | cons c rest ih =>
      have byte := c.utf8Size_pos
      rw [List.length_cons, String.utf8Len_cons]
      omega
  have counted := general key.toList
  rwa [← String.utf8ByteSize_ofList, String.ofList_toList, String.length_toList] at counted

/-- A known key that is near in characters has a character in common with the unknown key. -/
theorem IsNear.exists_common {key other : String} (near : IsNear key key.length other) :
    ∃ c ∈ key.toList, c ∈ other.toList :=
  EditDistance.exists_common_of_distance_lt (String.length_toList ▸ near.2)

/--
Which known key is suggested for an unknown one, and when the rule is the one in characters.

The length that counts is the one in bytes. By the length in characters the suggestion would be
the same, unless every known key that is near in bytes is as many edits away as the key has
characters. That is never so where the key has as many characters as bytes, or more characters than
the most edits that a suggestion may be away. What is near in characters keeps one of them.
-/
theorem suggestKey_exact (key : String) (known : List String) :
    SuggestsBy key key.utf8ByteSize known ∧
      (SuggestsBy key key.length known ↔
        ((∃ k ∈ known, IsNear key key.utf8ByteSize k) → ∃ k ∈ known, IsNear key key.length k)) ∧
      (key.length = key.utf8ByteSize ∨ maxSuggestionDistance < key.length →
        SuggestsBy key key.length known) ∧
      ∀ k, IsNear key key.length k → ∃ c ∈ key.toList, c ∈ k.toList := by
  have bytes := suggestsBy_bytes key known
  have characters := bytes.of_le_iff (length_le_utf8ByteSize key)
  refine ⟨bytes, characters, fun agree => ?_, fun k near => near.exists_common⟩
  refine characters.mpr fun ⟨k, member, near⟩ => ⟨k, member, near.1, ?_⟩
  -- Fewer edits than bytes are fewer than characters, or the most edits there may be are already
  -- fewer.
  rcases agree with same | long
  · exact same ▸ near.2
  · exact near.1.trans_lt long

/-- A key of three characters and more is corrected by the rule in characters, whatever they are. -/
theorem accentedKey_suggested : SuggestsBy "rül" "rül".length policyKeys ∧
    suggestKey "rül" policyKeys = some "rule" :=
  ⟨(suggestKey_exact "rül" policyKeys).2.2.1 (.inr (by decide)), by decide⟩

/-- For a key of two characters and four bytes a known key is suggested that has none of them. -/
theorem accents_lost : ¬SuggestsBy "éé" "éé".length policyKeys ∧
    suggestKey "éé" policyKeys = some "id" ∧ ¬∃ c ∈ "éé".toList, c ∈ "id".toList := by
  have suggested : suggestKey "éé" policyKeys = some "id" := by decide
  have far : ¬IsNear "éé" "éé".length "id" := by decide
  have apart : ¬("éé".toList.any fun c => "id".toList.contains c) = true := by decide
  refine ⟨fun suggests => far ((suggests.some_iff "id").mp suggested).1, suggested, ?_⟩
  rintro ⟨c, left, right⟩
  exact apart (List.any_eq_true.mpr ⟨c, left, List.contains_iff_mem.mpr right⟩)

end ToolPolicy
