import ToolPolicy.Proofs.Policy.Findings
import ToolPolicy.Proofs.Policy.Shape

/-! Which warnings policies give rise to: those about identifiers that come again depend on the
identifiers alone, and all others are about unknown keys. -/

namespace ToolPolicy

/-- The warning about the identifier of a policy, given the identifiers of the policies before it.
It names the first of them that has the same one. -/
def repetition? (before : List (Option String)) (here : Option String) : Option Issue :=
  here.bind fun id =>
    -- The warning stands at the number of policies before this one, which is its own index.
    (before.findIdx? (· == some id)).map fun first => duplicateIdWarning before.length first id

/-- The warnings about identifiers that come again, given those of the policies before. -/
def repetitionsFrom (before : List (Option String)) : List (Option String) → List Issue
  | [] => []
  | here :: rest => (repetition? before here).toList ++ repetitionsFrom (before ++ [here]) rest

/-- The warnings about identifiers that come again where no policy is without one. -/
def repeatedFrom (before : List String) : List String → List Issue
  | [] => []
  | id :: rest =>
    (if id ∈ before then [duplicateIdWarning before.length (before.idxOf id) id] else []) ++
      repeatedFrom (before ++ [id]) rest

/-- Whether a finding is about an identifier that comes again. -/
def Issue.isRepetition (i : Issue) : Bool := "duplicate".toList.isPrefixOf i.message.toList

/-- The warning about a repeated identifier is about that. -/
theorem isRepetition_duplicateIdWarning (index first : Nat) (id : String) :
    (duplicateIdWarning index first id).isRepetition = true := by
  simp [duplicateIdWarning, Issue.warning, Issue.isRepetition, String.toList_append]

/-- The warning about an unknown key is about no identifier. -/
theorem isRepetition_unknownKeyWarning (parent : String) (known : List String) (key : String) :
    (unknownKeyWarning parent known key).isRepetition = false := by
  simp [unknownKeyWarning, Issue.warning, Issue.isRepetition, String.toList_append,
    List.isPrefixOf]

/-- Nothing but unknown keys is warned about in a search for them. -/
theorem isRepetition_of_mem_unknownKeyWarnings {parent : String} {known : List String}
    {value : Node} {issue : Issue} (member : issue ∈ unknownKeyWarnings parent known value) :
    issue.isRepetition = false := by
  unfold unknownKeyWarnings at member
  -- Only a mapping has keys that could be searched.
  split at member
  · obtain ⟨key, _, rfl⟩ := List.mem_map.mp member
    exact isRepetition_unknownKeyWarning parent known key
  · cases member

/-- Leaving out what is about unknown keys leaves nothing of a search for them. -/
theorem filter_unknownKeyWarnings (parent : String) (known : List String) (value : Node) :
    (unknownKeyWarnings parent known value).filter Issue.isRepetition = [] := by
  rw [List.filter_eq_nil_iff]
  intro issue member
  simp [isRepetition_of_mem_unknownKeyWarnings member]

/-- Leaving out what is about unknown keys leaves nothing of a policy and its scope. -/
theorem filter_bodyWarnings (index : Nat) (policy : Node) :
    (bodyWarnings index policy).filter Issue.isRepetition = [] := by
  unfold bodyWarnings
  cases scope? policy with
  | none => simp [filter_unknownKeyWarnings]
  | some scope => simp [filter_unknownKeyWarnings]

/-! ### Identifiers that are known -/

/-- The identifiers seen so far are those that came before, each with its first place. -/
def Knows (seen : SeenIds) (before : List (Option String)) : Prop :=
  ∀ id, seen.lookup id = before.findIdx? (· == some id)

/-- In the beginning no identifier is known. -/
theorem knows_nil : Knows [] [] := fun _ => rfl

/-- What is known grows by the identifier of each policy that has one. -/
theorem Knows.seenAfter {seen : SeenIds} {before : List (Option String)} (knows : Knows seen before)
    (policy : Node) :
    Knows (seenAfter seen before.length policy) (before ++ [idText? policy]) := by
  intro other
  rw [List.findIdx?_append, List.findIdx?_singleton, ← knows other, ToolPolicy.seenAfter]
  cases identified : idText? policy with
  | none => simp
  | some id =>
    dsimp only
    -- The identifier that is asked for is the one of the policy, or another one.
    by_cases same : id = other
    · -- An identifier that came before keeps its first place, and a new one takes the last place.
      subst same
      cases found : seen.lookup id with
      | none => simp [List.lookup_append, found]
      | some first => simp [found]
    · have apart : (some id == some other) = false := by simpa using same
      have absent : (other == id) = false := by simpa using Ne.symm same
      rw [apart]
      split
      · simp
      · simp [List.lookup_append, List.lookup_cons, absent]

/-- Of what is said of a policy, only the warning about its identifier is about that. -/
theorem filter_policyWarnings {seen : SeenIds} {before : List (Option String)}
    (knows : Knows seen before) (policy : Node) :
    (policyWarnings seen before.length policy).filter Issue.isRepetition =
      (repetition? before (idText? policy)).toList := by
  unfold policyWarnings repetition?
  cases idText? policy with
  | none => rfl
  | some id =>
    dsimp only [Option.bind_some]
    -- The warnings about keys fall away, and the look-up says what is left.
    rw [List.filter_append, filter_bodyWarnings, List.append_nil, knows id]
    cases before.findIdx? (· == some id) with
    | none => rfl
    | some first => simp [isRepetition_duplicateIdWarning]

/-- The warnings about policies are, for the most part, about unknown keys. What is left is about
identifiers that come again. -/
theorem filter_warningsFrom {policies : List Node} {before : List (Option String)} {seen : SeenIds}
    (knows : Knows seen before) :
    (warningsFrom seen before.length policies).filter Issue.isRepetition =
      repetitionsFrom before (policies.map idText?) := by
  -- From policy to policy the identifiers that are known grow by the one of the policy.
  induction policies generalizing before seen with
  | nil => rfl
  | cons policy rest ih =>
    have next := ih (knows.seenAfter policy)
    rw [List.length_append, List.length_singleton] at next
    rw [warningsFrom, List.filter_append, filter_policyWarnings knows, next, List.map_cons,
      repetitionsFrom]

/-! ### Where no policy is without an identifier -/

/-- The first place of an identifier among others. -/
theorem findIdx?_map_some (ids : List String) (id : String) :
    (ids.map some).findIdx? (· == some id) = if id ∈ ids then some (ids.idxOf id) else none := by
  have alike : ((· == some id) ∘ some) = (· == id) := by
    funext other
    simp
  -- Where the text is not among them the index would be beyond the end.
  rw [List.findIdx?_map, List.findIdx?_eq_guard_findIdx_lt, alike]
  by_cases member : id ∈ ids
  · rw [if_pos member, Option.guard_eq_some_iff]
    simpa [List.idxOf] using member
  · rw [if_neg member]
    simpa [List.idxOf] using member

/-- Identifiers that are all there come again as texts do. -/
theorem repetitionsFrom_map_some (before ids : List String) :
    repetitionsFrom (before.map some) (ids.map some) = repeatedFrom before ids := by
  -- The identifiers before the list grow with each step, so that they are left open.
  induction ids generalizing before with
  | nil => rfl
  | cons id rest ih =>
    have next := ih (before ++ [id])
    rw [List.map_append, List.map_singleton] at next
    rw [List.map_cons, repetitionsFrom, next, repeatedFrom, repetition?, Option.bind_some,
      findIdx?_map_some, List.length_map]
    congr 1
    split
    · rfl
    · rfl

/-- Policies that all have identifiers repeat those that are repeated among these. -/
theorem filter_warningsFrom_identified {policies : List Node} {ids : List String}
    (identified : policies.map idText? = ids.map some) :
    (warningsFrom [] 0 policies).filter Issue.isRepetition = repeatedFrom [] ids := by
  have found : (warningsFrom [] 0 policies).filter Issue.isRepetition =
      repetitionsFrom [] (policies.map idText?) := filter_warningsFrom knows_nil
  rw [found, identified, ← repetitionsFrom_map_some, List.map_nil]

end ToolPolicy
