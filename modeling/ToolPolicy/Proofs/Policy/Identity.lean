import ToolPolicy.Proofs.Policy.Locality
import ToolPolicy.Proofs.Policy.View

/-! Policies are told apart by the texts of their identifiers: a run warns of the second and any
later policy with a text, and the typed document finds the first one. -/

namespace ToolPolicy

/-- The policy with an index has an identifier that counts, and this is how it is displayed. -/
def NamedAt (policies : List Node) (index : Nat) (text : String) : Prop :=
  ∃ policy id, policies[index]? = some policy ∧ policy.get? "id" = some id ∧
    id.isPresent = true ∧ id.text = text

/-- The policy with an index is the first one with an identifier. -/
structure FirstNamed (policies : List Node) (first : Nat) (text : String) : Prop where
  named : NamedAt policies first text
  least : ∀ index < first, ¬NamedAt policies index text

/-- The warnings about the identifier of the policy with an index. -/
def repetitionsAt (index : Nat) (issues : List Issue) : List Issue :=
  issues.filter fun issue => issue.isRepetition && issue.path == policyPath index ++ ".id"

/-! ### First policies -/

/-- A policy is named by the text that a run reads for it. -/
theorem namedAt_iff (policies : List Node) (index : Nat) (text : String) :
    NamedAt policies index text ↔ (policies.map idText?)[index]? = some (some text) := by
  rw [List.getElem?_map, Option.map_eq_some_iff]
  simp only [idText?_eq_some_iff]
  -- The two sides say the same of the policy, in another order.
  constructor
  · rintro ⟨policy, id, found, stored, present, shown⟩
    exact ⟨policy, found, id, stored, present, shown⟩
  · rintro ⟨policy, found, id, stored, present, shown⟩
    exact ⟨policy, id, found, stored, present, shown⟩

/-- The first policy with an identifier is the one that a search from the front comes to. -/
theorem firstNamed_iff (policies : List Node) (first : Nat) (text : String) :
    FirstNamed policies first text ↔
      (policies.map idText?).findIdx? (· == some text) = some first := by
  -- The index that is found has the name, and no index before it has.
  rw [List.findIdx?_eq_some_iff_getElem]
  simp only [beq_iff_eq]
  constructor
  · intro found
    obtain ⟨inside, here⟩ := List.getElem?_eq_some_iff.mp ((namedAt_iff _ _ _).mp found.named)
    refine ⟨inside, here, fun index before same => found.least index before ?_⟩
    rw [namedAt_iff, ← same, List.getElem?_eq_getElem]
  · rintro ⟨inside, here, least⟩
    refine ⟨?_, fun index before named => ?_⟩
    · rw [namedAt_iff, ← here, List.getElem?_eq_getElem]
    · rw [namedAt_iff, List.getElem?_eq_some_iff] at named
      exact least index before named.2

/-- Where a policy has an identifier there is a first one that has it. -/
theorem NamedAt.exists_first {policies : List Node} {index : Nat} {text : String}
    (named : NamedAt policies index text) :
    ∃ first, first ≤ index ∧ FirstNamed policies first text := by
  -- The first index is the least one at which the text is found.
  classical
  have found : ∃ i, NamedAt policies i text := ⟨index, named⟩
  exact ⟨Nat.find found, Nat.find_min' found named, Nat.find_spec found,
    fun _ before => Nat.find_min found before⟩

/-- Among the policies before an index a search comes to the first one if it is there. -/
theorem findIdx?_take_eq_some_iff (policies : List Node) (index first : Nat) (text : String) :
    ((policies.map idText?).take index).findIdx? (· == some text) = some first ↔
      FirstNamed policies first text ∧ first < index := by
  rw [List.findIdx?_take, Option.bind_eq_some_iff]
  simp only [← firstNamed_iff, Option.guard_eq_some_iff, decide_eq_true_eq]
  constructor
  · rintro ⟨_, found, rfl, before⟩
    exact ⟨found, before⟩
  · rintro ⟨found, before⟩
    exact ⟨first, found, rfl, before⟩

/-! ### Warnings about identifiers -/

/-- What is said of identifiers is said of them one after the other. -/
theorem repetitionsFrom_append (before earlier : List (Option String)) (here : Option String)
    (later : List (Option String)) :
    repetitionsFrom before (earlier ++ here :: later) =
      repetitionsFrom before earlier ++ (repetition? (before ++ earlier) here).toList ++
        repetitionsFrom (before ++ earlier ++ [here]) later := by
  -- The induction is on what stands before the identifier in question.
  induction earlier generalizing before with
  | nil => simp [repetitionsFrom]
  | cons first rest ih =>
    rw [List.cons_append, repetitionsFrom, ih, repetitionsFrom]
    simp [List.append_assoc]

/-- A warning about an identifier stands at the path of its policy. -/
theorem path_of_repetition? {before : List (Option String)} {here : Option String} {issue : Issue}
    (said : repetition? before here = some issue) :
    issue.path = policyPath before.length ++ ".id" := by
  obtain ⟨id, _, said⟩ := Option.bind_eq_some_iff.mp said
  obtain ⟨first, _, rfl⟩ := Option.map_eq_some_iff.mp said
  rfl

/-- The warnings about identifiers stand at the paths of the policies that have them. -/
theorem path_of_mem_repetitionsFrom {before ids : List (Option String)} {issue : Issue}
    (member : issue ∈ repetitionsFrom before ids) :
    ∃ index, before.length ≤ index ∧ index < before.length + ids.length ∧
      issue.path = policyPath index ++ ".id" := by
  -- Each identifier is one place further on than the one before it.
  induction ids generalizing before with
  | nil => cases member
  | cons here rest ih =>
    rw [repetitionsFrom, List.mem_append, Option.mem_toList] at member
    rw [List.length_cons]
    rcases member with said | later
    · exact ⟨before.length, Nat.le_refl _, by omega, path_of_repetition? said⟩
    · obtain ⟨index, after, inside, path⟩ := ih later
      rw [List.length_append, List.length_singleton] at after inside
      exact ⟨index, by omega, by omega, path⟩

/-- Identifiers of other policies make for no warning at a path. -/
theorem filter_path_repetitionsFrom {before ids : List (Option String)} {index : Nat}
    (apart : index < before.length ∨ before.length + ids.length ≤ index) :
    (repetitionsFrom before ids).filter (·.path == policyPath index ++ ".id") = [] := by
  rw [List.filter_eq_nil_iff]
  intro issue member same
  obtain ⟨other, after, inside, path⟩ := path_of_mem_repetitionsFrom member
  have equal : index = other := index_eq_of_policyPath ((beq_iff_eq.mp same).symm.trans path)
  omega

/-- At the path of a policy there is the warning about its identifier, if there is one. -/
theorem filter_path_of_getElem? {ids : List (Option String)} {index : Nat} {here : Option String}
    (found : ids[index]? = some here) :
    (repetitionsFrom [] ids).filter (·.path == policyPath index ++ ".id") =
      (repetition? (ids.take index) here).toList := by
  obtain ⟨inside, rfl⟩ := List.getElem?_eq_some_iff.mp found
  -- The identifiers are cut at the one that is asked for; before and behind it are other paths.
  have parts : ids = ids.take index ++ ids[index] :: ids.drop (index + 1) := by
    rw [List.getElem_cons_drop, List.take_append_drop]
  have length : (ids.take index).length = index := List.length_take_of_le (Nat.le_of_lt inside)
  have before : (repetitionsFrom [] (ids.take index)).filter
      (·.path == policyPath index ++ ".id") = [] :=
    filter_path_repetitionsFrom (.inr (by rw [length]; exact Nat.le_of_eq (Nat.zero_add index)))
  have after : (repetitionsFrom (ids.take index ++ [ids[index]]) (ids.drop (index + 1))).filter
      (·.path == policyPath index ++ ".id") = [] :=
    filter_path_repetitionsFrom
      (.inl (by rw [List.length_append, length]; exact Nat.lt_succ_self _))
  have here : (repetition? (ids.take index) ids[index]).toList.filter
      (·.path == policyPath index ++ ".id") = (repetition? (ids.take index) ids[index]).toList := by
    rw [List.filter_eq_self]
    intro issue said
    rw [path_of_repetition? (Option.mem_toList.mp said), length]
    exact beq_self_eq_true _
  -- Only the part of the warnings that is about this very policy is left.
  calc (repetitionsFrom [] ids).filter (·.path == policyPath index ++ ".id")
      = (repetitionsFrom [] (ids.take index ++ ids[index] :: ids.drop (index + 1))).filter
          (·.path == policyPath index ++ ".id") := by rw [← parts]
    _ = (repetition? (ids.take index) ids[index]).toList := by
      rw [repetitionsFrom_append, List.filter_append, List.filter_append, List.nil_append, before,
        after, here, List.nil_append, List.append_nil]

/-- What a run over everything says of identifiers. -/
theorem filter_isRepetition_collectAll {doc : Node} {policies : List Node}
    (listed : doc.get? "policies" = some (.sequence policies)) :
    (validate .collectAll doc).warnings.filter Issue.isRepetition =
      repetitionsFrom [] (policies.map idText?) := by
  have found : (warningsFrom [] 0 policies).filter Issue.isRepetition =
      repetitionsFrom [] (policies.map idText?) := filter_warningsFrom knows_nil
  rw [validate_collectAll, documentWarnings, listed]
  dsimp only [Option.bind_some, Node.items?, Option.map_some, Option.getD_some]
  -- The keys at the top of the document come first, and none of them is a repetition.
  rw [List.filter_append, filter_unknownKeyWarnings, found, List.nil_append]

/-- What a run over everything says of the identifier of a policy. -/
theorem repetitionsAt_collectAll {doc : Node} {policies : List Node}
    (listed : doc.get? "policies" = some (.sequence policies)) (index : Nat) :
    repetitionsAt index (validate .collectAll doc).warnings =
      (((policies.map idText?)[index]?).bind
        (repetition? ((policies.map idText?).take index))).toList := by
  have parts : repetitionsAt index (validate .collectAll doc).warnings =
      (repetitionsFrom [] (policies.map idText?)).filter
        (·.path == policyPath index ++ ".id") := by
    rw [← filter_isRepetition_collectAll listed, List.filter_filter, repetitionsAt]
    simp only [Bool.and_comm]
  rw [parts]
  cases found : (policies.map idText?)[index]? with
  | none =>
    -- There is no policy with the index, so that all warnings are about others.
    have outside := List.getElem?_eq_none_iff.mp found
    exact filter_path_repetitionsFrom (.inr (by simpa using outside))
  | some here => rw [filter_path_of_getElem? found, Option.bind_some]

/-- A run warns of the second and any later policy with an identifier, and names the first one. -/
theorem repetitionsAt_of_first {doc : Node} {policies : List Node}
    (listed : doc.get? "policies" = some (.sequence policies)) {index first : Nat} {text : String}
    (named : NamedAt policies index text) (found : FirstNamed policies first text)
    (before : first < index) :
    repetitionsAt index (validate .collectAll doc).warnings =
      [duplicateIdWarning index first text] := by
  have here := (namedAt_iff _ _ _).mp named
  have inside : index < (policies.map idText?).length := (List.getElem?_eq_some_iff.mp here).1
  -- A search among the policies before this one comes to the first policy.
  rw [repetitionsAt_collectAll listed, here, Option.bind_some, repetition?, Option.bind_some,
    (findIdx?_take_eq_some_iff _ _ _ _).mpr ⟨found, before⟩, List.length_take,
    Nat.min_eq_left (Nat.le_of_lt inside)]
  rfl

/-- A run says nothing of an identifier that no earlier policy has. -/
theorem repetitionsAt_of_fresh {doc : Node} {policies : List Node}
    (listed : doc.get? "policies" = some (.sequence policies)) {index : Nat}
    (fresh : ∀ text, NamedAt policies index text → ∀ i < index, ¬NamedAt policies i text) :
    repetitionsAt index (validate .collectAll doc).warnings = [] := by
  rw [repetitionsAt_collectAll listed, Option.toList_eq_nil_iff]
  -- A warning would name an earlier policy with the same identifier.
  by_contra said
  obtain ⟨issue, said⟩ := Option.ne_none_iff_exists'.mp said
  obtain ⟨here, found, said⟩ := Option.bind_eq_some_iff.mp said
  obtain ⟨text, rfl, said⟩ := Option.bind_eq_some_iff.mp said
  obtain ⟨first, again, _⟩ := Option.map_eq_some_iff.mp said
  obtain ⟨there, before⟩ := (findIdx?_take_eq_some_iff _ _ _ _).mp again
  exact fresh text ((namedAt_iff _ _ _).mpr found) first before there.named

/-! ### Typed documents -/

/-- The rules of accepted policies have the identifiers of these. -/
theorem map_id_eq {policies : List Node} (shaped : ∀ policy ∈ policies, IsPolicy policy) :
    policies.map idText? = (policies.map Rule.ofNode).map (some ·.id) := by
  rw [List.map_map]
  exact List.map_congr_left fun policy member => (shaped policy member).idText?_eq

/-- The first rule with an identifier is that of the first policy with it. -/
theorem findIdx?_id_eq {policies : List Node} (shaped : ∀ policy ∈ policies, IsPolicy policy)
    (text : String) :
    (policies.map Rule.ofNode).findIdx? (·.id == text) =
      (policies.map idText?).findIdx? (· == some text) := by
  rw [map_id_eq shaped]
  generalize policies.map Rule.ofNode = rules
  rw [List.findIdx?_map]
  congr 1

/-- A text is no identifier exactly where a search for it ends without a policy. -/
theorem findIdx?_eq_none_iff_namedAt (policies : List Node) (text : String) :
    (policies.map idText?).findIdx? (· == some text) = none ↔
      ∀ index, ¬NamedAt policies index text := by
  simp only [List.findIdx?_eq_none_iff, namedAt_iff, List.mem_iff_getElem?, beq_eq_false_iff_ne]
  constructor
  · intro none index found
    exact none _ ⟨index, found⟩ rfl
  · rintro none _ ⟨index, found⟩ rfl
    exact none index found

/-- By an identifier the rule of the first policy with it is found. -/
theorem FirstNamed.find? {policies : List Node} (shaped : ∀ policy ∈ policies, IsPolicy policy)
    {first : Nat} {text : String} (found : FirstNamed policies first text) :
    ∃ policy, policies[first]? = some policy ∧
      (policies.map Rule.ofNode)[first]? = some (.ofNode policy) ∧
      (policies.map Rule.ofNode).find? (·.id == text) = some (.ofNode policy) ∧
      (policies.map Rule.ofNode).findIdx? (·.id == text) = some first := by
  obtain ⟨policy, _, there, _⟩ := found.named
  -- The search in the rules ends at the same index as the search in the policies.
  have place : (policies.map Rule.ofNode).findIdx? (·.id == text) = some first := by
    rw [findIdx?_id_eq shaped]
    exact (firstNamed_iff _ _ _).mp found
  have rule : (policies.map Rule.ofNode)[first]? = some (.ofNode policy) := by
    rw [List.getElem?_map, there]
    rfl
  refine ⟨policy, there, rule, ?_, place⟩
  rw [List.find?_eq_bind_findIdx?_getElem?, place, Option.bind_some, rule]

/-- Policies of which all but the first have identifiers that are displayed alike. -/
def echoingPolicies : List Node :=
  [Node.string "x", .int 7, .string "7", .int 7].map fun id =>
    .mapping [("id", id), ("rule", .string "deny"),
      ("applies_to", .mapping [("tools", .sequence [.string "*"])])]

/-- A document of the echoing policies. -/
def echoingTree : Node :=
  .mapping [("version", .int 1), ("policies", .sequence echoingPolicies)]

end ToolPolicy
