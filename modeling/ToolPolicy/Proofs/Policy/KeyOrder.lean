import ToolPolicy.Proofs.Json.Parser
import ToolPolicy.Proofs.Loader.MergeKeys
import ToolPolicy.Proofs.Node.Alike
import ToolPolicy.Proofs.Policy.Modes
import ToolPolicy.Proofs.Policy.Tidiness
import ToolPolicy.Proofs.Yaml.Shown

/-! The order of keys does not matter to what is wrong with a document, nor to which of its keys are
not known. -/

namespace ToolPolicy

/-- Where a finding is, and of which kind. -/
def Issue.outline (i : Issue) : String × Option String := (i.path, i.violation.map Violation.kind)

/-- Whether a finding is about a key that is not known. -/
def Issue.isUnknownKey (i : Issue) : Bool := "unknown field".toList.isPrefixOf i.message.toList

/-- What two documents have in common if their findings differ at most in the texts of identifiers
and in the order of keys. -/
structure SameFindings (a b : Node) : Prop where
  /-- Both are accepted, or both are refused for the same kind of violation. -/
  verdict : (validatePolicy a).mapError Violation.kind = (validatePolicy b).mapError Violation.kind
  /-- The errors are in the same places and of the same kinds, in the same order. -/
  errors : (validate .collectAll a).errors.map Issue.outline =
    (validate .collectAll b).errors.map Issue.outline
  /-- The same unknown keys are warned about, perhaps in another order. -/
  unknownKeys : ((validate .collectAll a).warnings.filter Issue.isUnknownKey).Perm
    ((validate .collectAll b).warnings.filter Issue.isUnknownKey)

namespace Node.Alike

variable {a b : Node}

/-- Equal policies both have an identifier, or none of them has one. -/
theorem isSome_idText? (alike : Alike a b) : (idText? a).isSome = (idText? b).isSome := by
  rw [idText?, idText?, Option.isSome_map, Option.isSome_map]
  -- What counts as present does not depend on the order of keys, though its text does.
  exact isSome_eq_of_rel (alike.getPresent? "id")

/-- Equal policies both name tools, or none of them does. -/
theorem hasTools (alike : Alike a b) : hasTools a = hasTools b := by
  have tools : Option.Rel (List.Forall₂ Alike) (toolNodes? a) (toolNodes? b) :=
    rel_bind (rel_bind (alike.getPresent? "applies_to") fun scope => scope.get? "tools")
      fun tools => tools.items?
  unfold ToolPolicy.hasTools
  -- Only whether the lists are empty is asked, and they are equally long.
  generalize toolNodes? a = here at tools
  generalize toolNodes? b = there at tools
  cases tools with
  | none => rfl
  | some each => rw [Option.any_some, Option.any_some, isEmpty_eq_of_length each.length_eq]

/-! ### Errors -/

/-- The errors of equal policies are alike. -/
theorem outline_policyErrors (alike : Alike a b) (index : Nat) :
    (policyErrors index a).map Issue.outline = (policyErrors index b).map Issue.outline := by
  have identified := alike.isSome_idText?
  have ruled := isSome_eq_of_rel (alike.getPresent? "rule")
  have tooled := alike.hasTools
  unfold policyErrors
  -- The identifiers may be shown differently, but this is left out of the outlines.
  generalize idText? a = here at identified
  generalize idText? b = there at identified
  cases here with
  | none =>
    cases there with
    | none => rfl
    | some other => cases identified
  | some id =>
    cases there with
    | none => cases identified
    | some other =>
      dsimp only
      rw [bodyErrors, bodyErrors, ruled, tooled, List.map_append, List.map_append]
      congr 1
      · split <;> rfl
      · split <;> rfl

/-- The errors of policies that are equal one by one are alike. -/
theorem outline_errorsFrom {policies others : List Node}
    (alike : List.Forall₂ Alike policies others)
    (index : Nat) :
    (errorsFrom index policies).map Issue.outline =
      (errorsFrom index others).map Issue.outline := by
  -- The induction is on the pairs of equal policies, which have the same index.
  induction alike generalizing index with
  | nil => rfl
  | cons first _ ih =>
    rw [errorsFrom, errorsFrom, List.map_append, List.map_append, ih,
      first.outline_policyErrors]

/-- The policies of equal documents are equal one by one. -/
theorem policies (alike : Alike a b) :
    Option.Rel (List.Forall₂ Alike) ((a.get? "policies").bind Node.items?)
      ((b.get? "policies").bind Node.items?) :=
  rel_bind (alike.get? "policies") fun policies => policies.items?

/-- The versions of equal documents are both right, or both wrong. -/
theorem versionErrors (alike : Alike a b) : versionErrors a = versionErrors b := by
  have version := alike.get? "version"
  unfold ToolPolicy.versionErrors
  generalize a.get? "version" = here at version
  generalize b.get? "version" = there at version
  -- The versions are missing in both, or they are equal values.
  cases version with
  | none => rfl
  | some value => rw [Option.bind_some, Option.bind_some, value.asInt?]

/-- The errors of equal documents are alike. -/
theorem outline_documentErrors (alike : Alike a b) :
    (documentErrors a).map Issue.outline = (documentErrors b).map Issue.outline := by
  have versions := alike.versionErrors
  have policies := alike.policies
  cases a with
  | mapping entries =>
    obtain ⟨others, rfl, keys, -⟩ := alike.of_mapping
    have length := keys.length_eq
    rw [Entries.keys, Entries.keys, List.length_map, List.length_map] at length
    -- An empty mapping has no version, and it equals nothing but an empty mapping.
    cases entries with
    | nil =>
      cases others with
      | nil => rfl
      | cons other rest => cases length
    | cons entry rest =>
      cases others with
      | nil => cases length
      | cons other more =>
        rw [documentErrors, documentErrors, List.map_append, List.map_append, versions]
        congr 1
        generalize ((mapping (entry :: rest)).get? "policies").bind Node.items? = here at policies
        generalize ((mapping (other :: more)).get? "policies").bind Node.items? = there at policies
        cases policies with
        | none => rfl
        | some each => exact outline_errorsFrom each 0
  -- Values without keys are equal to values without keys, and all of them have the one error.
  | _ =>
    cases b with
    | mapping others =>
      obtain ⟨entries, other⟩ := alike.eq_mapping
      cases other
    | _ => rfl

/-! ### Warnings -/

/-- Equal values have the same keys in some order. -/
theorem keys_perm (alike : Alike a b) : a.keys.Perm b.keys := by
  cases a with
  | mapping entries =>
    obtain ⟨others, rfl, keys, -⟩ := alike.of_mapping
    exact keys
  -- Values without keys are equal to values without keys only.
  | _ =>
    cases b with
    | mapping others =>
      obtain ⟨entries, other⟩ := alike.eq_mapping
      cases other
    | _ => exact .nil

/-- The warnings about the keys of equal values are the same in some order. -/
theorem unknownKeyWarnings_perm (alike : Alike a b) (parent : String) (known : List String) :
    (unknownKeyWarnings parent known a).Perm (unknownKeyWarnings parent known b) := by
  rw [unknownKeyWarnings_eq, unknownKeyWarnings_eq]
  exact (alike.keys_perm.filter _).map _

/-- The warnings about the keys of equal policies are the same in some order. -/
theorem bodyWarnings_perm (alike : Alike a b) (index : Nat) :
    (bodyWarnings index a).Perm (bodyWarnings index b) := by
  have scopes : Option.Rel Alike (scope? a) (scope? b) := alike.getPresent? "applies_to"
  unfold bodyWarnings
  -- The keys of the policy come first, and then those of what it applies to.
  refine (alike.unknownKeyWarnings_perm _ _).append ?_
  generalize scope? a = here at scopes
  generalize scope? b = there at scopes
  cases scopes with
  | none => exact .nil
  | some scope => exact scope.unknownKeyWarnings_perm _ _

end Node.Alike

/-- The warning about an unknown key is about that. -/
theorem isUnknownKey_unknownKeyWarning (parent : String) (known : List String) (key : String) :
    (unknownKeyWarning parent known key).isUnknownKey = true := by
  simp [unknownKeyWarning, Issue.warning, Issue.isUnknownKey, String.toList_append]

/-- The warning about a repeated identifier is about no key. -/
theorem isUnknownKey_duplicateIdWarning (index first : Nat) (id : String) :
    (duplicateIdWarning index first id).isUnknownKey = false := by
  simp [duplicateIdWarning, Issue.warning, Issue.isUnknownKey, String.toList_append,
    List.isPrefixOf]

/-- A search for unknown keys warns about nothing else. -/
theorem filter_isUnknownKey_unknownKeyWarnings (parent : String) (known : List String)
    (value : Node) : (unknownKeyWarnings parent known value).filter Issue.isUnknownKey =
      unknownKeyWarnings parent known value := by
  rw [unknownKeyWarnings_eq, List.filter_eq_self]
  intro issue member
  obtain ⟨key, -, rfl⟩ := List.mem_map.mp member
  exact isUnknownKey_unknownKeyWarning parent known key

/-- Of what is said of a policy that has an identifier, what is about keys is left. -/
theorem filter_isUnknownKey_policyWarnings (seen : SeenIds) (index : Nat) (policy : Node) :
    (policyWarnings seen index policy).filter Issue.isUnknownKey =
      if (idText? policy).isSome then bodyWarnings index policy else [] := by
  unfold policyWarnings
  cases idText? policy with
  | none => rfl
  | some id =>
    have keys : (bodyWarnings index policy).filter Issue.isUnknownKey =
        bodyWarnings index policy := by
      unfold bodyWarnings
      rw [List.filter_append, filter_isUnknownKey_unknownKeyWarnings]
      cases scope? policy with
      | none => rfl
      | some scope => rw [filter_isUnknownKey_unknownKeyWarnings]
    dsimp only
    rw [List.filter_append, keys]
    -- In front of the keys there is at most one warning, which is about the identifier.
    cases seen.lookup id with
    | none => rfl
    | some first => simp [isUnknownKey_duplicateIdWarning]

/-- The same keys of equal policies are warned about, whatever identifiers are known. -/
theorem filter_isUnknownKey_warningsFrom {policies others : List Node}
    (alike : List.Forall₂ Node.Alike policies others) (seen seen' : SeenIds) (index : Nat) :
    ((warningsFrom seen index policies).filter Issue.isUnknownKey).Perm
      ((warningsFrom seen' index others).filter Issue.isUnknownKey) := by
  -- The texts of equal identifiers may differ, and so may what is known of them.
  induction alike generalizing seen seen' index with
  | nil => exact .nil
  | cons first _ ih =>
    rw [warningsFrom, warningsFrom, List.filter_append, List.filter_append,
      filter_isUnknownKey_policyWarnings, filter_isUnknownKey_policyWarnings,
      first.isSome_idText?]
    -- The warnings of the two first policies are put beside each other, and so are those of the
    -- rest.
    refine .append ?_ (ih _ _ _)
    split
    · exact first.bodyWarnings_perm index
    · exact .nil

/-- The same keys of equal documents are warned about. -/
theorem Node.Alike.filter_isUnknownKey_documentWarnings {a b : Node} (alike : Alike a b) :
    ((documentWarnings a).filter Issue.isUnknownKey).Perm
      ((documentWarnings b).filter Issue.isUnknownKey) := by
  have policies := alike.policies
  -- The keys of the document come first, and then those of its policies.
  rw [documentWarnings, documentWarnings, List.filter_append, List.filter_append,
    filter_isUnknownKey_unknownKeyWarnings, filter_isUnknownKey_unknownKeyWarnings]
  refine (alike.unknownKeyWarnings_perm _ _).append ?_
  generalize (a.get? "policies").bind Node.items? = here at policies
  generalize (b.get? "policies").bind Node.items? = there at policies
  cases policies with
  | none => exact .nil
  | some each => exact filter_isUnknownKey_warningsFrom each [] [] 0

/-! ### Whole documents -/

/-- The verdict on a document is of the kind of its first error. -/
theorem mapError_kind_validatePolicy (doc : Node) :
    (validatePolicy doc).mapError Violation.kind =
      match ((documentErrors doc).map Issue.outline).findSome? Prod.snd with
      | some kind => .error kind
      | none => .ok () := by
  -- The kinds of the errors stand in their outlines.
  have kinds : ((documentErrors doc).map Issue.outline).findSome? Prod.snd =
      (documentViolation? doc).map Violation.kind := by
    rw [← findSome?_documentErrors, List.findSome?_map, List.map_findSome?]
    rfl
  rw [kinds, validatePolicy_eq]
  cases documentViolation? doc <;> rfl

/-- Documents that are equal but for the order of keys have the same findings. -/
theorem Node.Alike.sameFindings {a b : Node} (alike : Alike a b) : SameFindings a b where
  verdict := by
    rw [mapError_kind_validatePolicy, mapError_kind_validatePolicy, alike.outline_documentErrors]
  errors := by
    rw [validate_collectAll, validate_collectAll]
    exact alike.outline_documentErrors
  unknownKeys := by
    rw [validate_collectAll, validate_collectAll]
    exact alike.filter_isUnknownKey_documentWarnings

/-! ### Documents that are read -/

/-- A tree that can be told from what is written of it has distinct keys. -/
theorem Node.IsSound.isKeyed {n : Node} (sound : n.IsSound) : n.IsKeyed := by
  intro entries within
  -- The induction goes down to the mapping in question, whose tree is sound all the way.
  induction within with
  | self => exact (Node.isSound_mapping_iff.mp sound).1
  | item member _ ih => exact ih (Node.isSound_sequence_iff.mp sound _ member)
  | entry member _ ih => exact ih ((Node.isSound_mapping_iff.mp sound).2 _ member)

/-- The tree of a policy file has distinct keys. -/
theorem Loader.IsLoaded.isKeyed {limit : Nat} {text : String} {n : Node}
    (loaded : IsLoaded limit text n) : n.IsKeyed := by
  obtain ⟨path, parsed⟩ := loaded.exists_parse
  -- An empty text is null; any other tree is made from a value, which makes its keys distinct.
  rcases eq_null_or_exists_of_parse parsed with rfl | ⟨value, resolved, -, -, rfl⟩
  · intro entries within
    cases within
  · exact Yaml.Value.isKeyed_toNode resolved

/--
Documents with distinct keys that are equal, with the keys of their mappings in whatever order, have
the same findings.

So it makes no difference whether a document is read from a policy file, with its keys in the order
of the file, or from JSON, with its keys sorted.
-/
theorem sameFindings_of_same :
    (∀ a b : Node, a.IsKeyed → a.same b = true → SameFindings a b) ∧
    ∀ limit text n json value, Loader.IsLoaded limit text n → Json.parse json = .ok value →
      n.same value.toNode = true → SameFindings n value.toNode := by
  constructor
  · intro a b keyed same
    exact Node.Alike.sameFindings ⟨keyed, same⟩
  · intro limit text n json value loaded read same
    exact Node.Alike.sameFindings ⟨loaded.isKeyed, same⟩

/-- A policy without tools that has a mapping for its identifier. -/
def unsortedText : String :=
  "version: 1\npolicies:\n- rule: {block: false}\n  note: x\n  id: {b: 1, a: 2}\n  kind: y\n"

/-- The same policy with sorted keys. -/
def sortedText : String :=
  "\x7b\"policies\": [\x7b\"id\": \x7b\"a\": 2, \"b\": 1\x7d, \"kind\": \"y\", " ++
    "\"note\": \"x\", \"rule\": \x7b\"block\": false\x7d\x7d], \"version\": 1\x7d"

/-- Both texts have the same findings, although their errors show the identifier differently. -/
theorem unsortedText_sameFindings : ∃ n value,
    Loader.IsLoaded Loader.defaultLimit unsortedText n ∧ Json.parse sortedText = .ok value ∧
    n.IsKeyed ∧ n.same value.toNode = true ∧
    (validate .collectAll n).errors ≠ (validate .collectAll value.toNode).errors ∧
    SameFindings n value.toNode := by
  have read : (Loader.loadText Loader.defaultLimit unsortedText).toOption.any (fun n =>
      (Json.parse sortedText).toOption.any fun value =>
        n.same value.toNode &&
          (validate .collectAll n).errors != (validate .collectAll value.toNode).errors) = true := by
    decide +kernel
  -- Both texts are known to be read; what is read is named, and the facts are stated of it.
  cases given : Loader.loadText Loader.defaultLimit unsortedText with
  | error fault =>
    rw [given] at read
    cases read
  | ok n =>
    cases parsed : Json.parse sortedText with
    | error fault =>
      rw [given, parsed] at read
      cases read
    | ok value =>
      rw [given, parsed] at read
      obtain ⟨same, different⟩ := Bool.and_eq_true_iff.mp read
      have loaded : Loader.IsLoaded Loader.defaultLimit unsortedText n := .inl given
      exact ⟨n, value, loaded, rfl, loaded.isKeyed, same, bne_iff_ne.mp different,
        sameFindings_of_same.1 n value.toNode loaded.isKeyed same⟩

end ToolPolicy
