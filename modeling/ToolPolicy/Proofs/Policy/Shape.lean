import ToolPolicy.Proofs.Policy.Findings
import ToolPolicy.Proofs.Policy.Modes

/-! The shape of policy documents: which trees are accepted, and for what the others are refused. -/

namespace ToolPolicy

/-- A value that counts as present stands under a key. -/
def Node.Holds (n : Node) (key : String) : Prop :=
  ∃ value, n.get? key = some value ∧ value.isPresent = true

/-- A policy has a mapping for its scope, with at least one tool in the list of tools. -/
def NamesTools (policy : Node) : Prop :=
  -- The list is split at its first tool, which says that it is not empty.
  ∃ scope tool rest, policy.get? "applies_to" = some (.mapping scope) ∧
    scope.lookup "tools" = some (.sequence (tool :: rest))

/-- The shape of a policy. -/
structure IsPolicy (policy : Node) : Prop where
  isMapping : ∃ entries, policy = .mapping entries
  holdsId : policy.Holds "id"
  holdsRule : policy.Holds "rule"
  namesTools : NamesTools policy

/-- The shape of a document. -/
structure IsPolicyDocument (doc : Node) : Prop where
  isMapping : ∃ entries, doc = .mapping entries
  hasVersion : doc.get? "version" = some (.int 1)
  hasPolicies : ∃ policies, doc.get? "policies" = some (.sequence policies) ∧
    ∀ policy ∈ policies, IsPolicy policy

/-- What a policy violates first: an identifier comes before a rule, and a rule before tools. -/
inductive BreaksPolicy (policy : Node) : Violation → Prop
  | id (missing : ¬policy.Holds "id") : BreaksPolicy policy .missingId
  | rule {id : Node} (found : policy.get? "id" = some id) (present : id.isPresent = true)
      (missing : ¬policy.Holds "rule") : BreaksPolicy policy (.missingRule id.text)
  | tools {id : Node} (found : policy.get? "id" = some id) (present : id.isPresent = true)
      (ruled : policy.Holds "rule") (missing : ¬NamesTools policy) :
      BreaksPolicy policy (.missingTools id.text)

/--
What a document violates first.

Its version comes before its policies, and these come one after the other. A value that is no
mapping, or an empty one, has no version.
-/
inductive BreaksDocument (doc : Node) : Violation → Prop
  | version (wrong : doc.get? "version" ≠ some (.int 1)) : BreaksDocument doc .invalidVersion
  | policies (versioned : doc.get? "version" = some (.int 1))
      (wrong : ∀ policies, doc.get? "policies" ≠ some (.sequence policies)) :
      BreaksDocument doc .invalidPoliciesType
  | policy {before after : List Node} {policy : Node} {v : Violation}
      (versioned : doc.get? "version" = some (.int 1))
      (listed : doc.get? "policies" = some (.sequence (before ++ policy :: after)))
      (sound : ∀ earlier ∈ before, IsPolicy earlier) (breaks : BreaksPolicy policy v) :
      BreaksDocument doc v

/-! ### Policies -/

/-- The first violation of a policy, if there is one. -/
def policyViolation? (policy : Node) : Option Violation :=
  match idText? policy with
  | none => some .missingId
  | some id =>
    -- From here on violations carry the text of the identifier.
    if (policy.getPresent? "rule").isNone then some (.missingRule id)
    else if hasTools policy then none
    else some (.missingTools id)

/-- A key is found present exactly where it holds a value that counts. -/
theorem isSome_getPresent?_iff (n : Node) (key : String) :
    (n.getPresent? key).isSome = true ↔ n.Holds key := by
  unfold Node.getPresent? Node.Holds
  -- A value that is there may still be one that counts as missing.
  cases n.get? key with
  | none => simp
  | some value => simp [Option.filter_some]

/-- The identifier of a policy is the text of a value that counts. -/
theorem idText?_eq_some_iff (policy : Node) (text : String) :
    idText? policy = some text ↔
      ∃ id, policy.get? "id" = some id ∧ id.isPresent = true ∧ id.text = text := by
  simp [idText?, Node.getPresent?, Option.map_eq_some_iff, Option.filter_eq_some_iff, and_assoc]

/-- A policy without an identifier has no value for it that counts. -/
theorem idText?_eq_none_iff (policy : Node) : idText? policy = none ↔ ¬policy.Holds "id" := by
  rw [← isSome_getPresent?_iff]
  simp [idText?]

/-- Tools are found exactly where a policy names them. -/
theorem hasTools_iff (policy : Node) : hasTools policy = true ↔ NamesTools policy := by
  -- The test looks up the scope, then the list in it, and then whether the list is empty.
  simp only [hasTools, toolNodes?, scope?, Node.getPresent?, Option.any_eq_true,
    Option.bind_eq_some_iff, Option.filter_eq_some_iff, Node.items?_eq_some_iff,
    Node.get?_eq_some_iff _ "tools"]
  constructor
  · rintro ⟨tools, ⟨_, ⟨_, ⟨applied, _⟩, scope, rfl, named⟩, rfl⟩, filled⟩
    cases tools with
    | nil => simp at filled
    | cons tool rest => exact ⟨scope, tool, rest, applied, named⟩
  · rintro ⟨scope, tool, rest, applied, named⟩
    -- A scope with tools in it is no empty mapping, so that it does not count as missing.
    have present : (Node.mapping scope).isPresent = true := by
      cases scope with
      | nil => simp at named
      | cons entry others => rfl
    exact ⟨tool :: rest, ⟨_, ⟨_, ⟨applied, present⟩, scope, rfl, named⟩, rfl⟩, rfl⟩

/-- A policy of the right shape violates nothing. -/
theorem IsPolicy.policyViolation? {policy : Node} (shaped : IsPolicy policy) :
    policyViolation? policy = none := by
  -- Each part of the shape passes the check that asks for it.
  obtain ⟨id, found, present⟩ := shaped.holdsId
  have identified := (idText?_eq_some_iff policy id.text).mpr ⟨id, found, present, rfl⟩
  have ruled := (isSome_getPresent?_iff policy "rule").mpr shaped.holdsRule
  have tooled := (hasTools_iff policy).mpr shaped.namesTools
  -- With all three answers known, the check comes to its end without a violation.
  simp [ToolPolicy.policyViolation?, identified, Option.isSome_iff_ne_none.mp ruled, tooled]

/-- A policy that breaks the shape is charged with what it violates first. -/
theorem BreaksPolicy.policyViolation? {policy : Node} {v : Violation}
    (breaks : BreaksPolicy policy v) : policyViolation? policy = some v := by
  -- The checks come in the order of the ways to break the shape, so that earlier ones pass.
  cases breaks with
  | id missing =>
    simp [ToolPolicy.policyViolation?, (idText?_eq_none_iff policy).mpr missing]
  | rule found present missing =>
    have identified := (idText?_eq_some_iff policy _).mpr ⟨_, found, present, rfl⟩
    rw [← isSome_getPresent?_iff] at missing
    simp [ToolPolicy.policyViolation?, identified, Option.not_isSome_iff_eq_none.mp missing]
  | tools found present ruled missing =>
    have identified := (idText?_eq_some_iff policy _).mpr ⟨_, found, present, rfl⟩
    -- Rule and tools are judged by Boolean tests, which the two facts are turned into.
    rw [← isSome_getPresent?_iff] at ruled
    rw [← hasTools_iff] at missing
    simp [ToolPolicy.policyViolation?, identified, Option.isSome_iff_ne_none.mp ruled, missing]

/-- Every tree is a policy or breaks the shape of one. -/
theorem isPolicy_or_breaks (policy : Node) : IsPolicy policy ∨ ∃ v, BreaksPolicy policy v := by
  by_cases identified : policy.Holds "id"
  · obtain ⟨id, found, present⟩ := identified
    by_cases ruled : policy.Holds "rule"
    · by_cases tooled : NamesTools policy
      · -- Only mappings hold anything, so that the last part of the shape comes for free.
        obtain ⟨entries, isMapping, _⟩ := (Node.get?_eq_some_iff _ _ _).mp found
        exact .inl ⟨⟨entries, isMapping⟩, ⟨id, found, present⟩, ruled, tooled⟩
      · exact .inr ⟨_, .tools found present ruled tooled⟩
    · exact .inr ⟨_, .rule found present ruled⟩
  · exact .inr ⟨_, .id identified⟩

/-- A policy has the right shape exactly where nothing is violated. -/
theorem policyViolation?_eq_none_iff (policy : Node) :
    policyViolation? policy = none ↔ IsPolicy policy := by
  -- A tree that is no policy would be charged with something.
  constructor
  · intro clean
    rcases isPolicy_or_breaks policy with shaped | ⟨v, breaks⟩
    · exact shaped
    · rw [breaks.policyViolation?] at clean
      cases clean
  · exact IsPolicy.policyViolation?

/-- A policy is charged with a violation exactly where it breaks the shape in that way first. -/
theorem policyViolation?_eq_some_iff (policy : Node) (v : Violation) :
    policyViolation? policy = some v ↔ BreaksPolicy policy v := by
  -- A tree breaks the shape in one way only, which is the one it is charged with.
  constructor
  · intro charged
    rcases isPolicy_or_breaks policy with shaped | ⟨u, breaks⟩
    · rw [shaped.policyViolation?] at charged
      cases charged
    · rw [breaks.policyViolation?] at charged
      cases charged
      exact breaks
  · exact BreaksPolicy.policyViolation?

/-- The errors of a policy begin with its first violation, whatever its index. -/
theorem findSome?_policyErrors (index : Nat) (policy : Node) :
    (policyErrors index policy).findSome? (·.violation) = policyViolation? policy := by
  unfold policyErrors policyViolation?
  -- The errors stand in the order of the checks, and each one is the finding of a violation.
  cases idText? policy with
  | none => rfl
  | some id =>
    dsimp only [bodyErrors]
    cases (policy.getPresent? "rule") with
    | none => rfl
    | some rule => cases hasTools policy <;> rfl

/-! ### Documents -/

/-- The first violation of a document, if there is one. -/
def documentViolation? (doc : Node) : Option Violation :=
  if (doc.get? "version").bind Node.asInt? = some 1 then
    match (doc.get? "policies").bind Node.items? with
    | none => some .invalidPoliciesType
    | some policies => policies.findSome? policyViolation?
  else some .invalidVersion

/-- Only the integer one is a version, whatever else reads like it. -/
theorem version_eq_one_iff (doc : Node) :
    (doc.get? "version").bind Node.asInt? = some 1 ↔ doc.get? "version" = some (.int 1) := by
  simp [Option.bind_eq_some_iff, Node.asInt?_eq_some_iff]

/-- The policies of a document are the items of a sequence. -/
theorem policies_eq_some_iff (doc : Node) (policies : List Node) :
    (doc.get? "policies").bind Node.items? = some policies ↔
      doc.get? "policies" = some (.sequence policies) := by
  simp [Option.bind_eq_some_iff, Node.items?_eq_some_iff]

/-- A document has the right shape exactly where nothing is violated. -/
theorem documentViolation?_eq_none_iff (doc : Node) :
    documentViolation? doc = none ↔ IsPolicyDocument doc := by
  unfold documentViolation?
  -- The checks of a document are its version, its policies as a list, and each policy of the list.
  constructor
  · intro clean
    split at clean
    · rename_i versioned
      rw [version_eq_one_iff] at versioned
      -- A document with a version under its key is a mapping.
      obtain ⟨entries, isMapping, _⟩ := (Node.get?_eq_some_iff _ _ _).mp versioned
      cases listed : (doc.get? "policies").bind Node.items? with
      | none => simp [listed] at clean
      | some policies =>
        simp only [listed, List.findSome?_eq_none_iff, policyViolation?_eq_none_iff] at clean
        exact ⟨⟨entries, isMapping⟩, versioned, policies,
          (policies_eq_some_iff doc policies).mp listed, clean⟩
    · cases clean
  · intro shaped
    obtain ⟨policies, listed, sound⟩ := shaped.hasPolicies
    -- Read backwards, every part of the shape passes its check.
    rw [if_pos ((version_eq_one_iff doc).mpr shaped.hasVersion),
      (policies_eq_some_iff doc policies).mpr listed]
    simpa only [List.findSome?_eq_none_iff, policyViolation?_eq_none_iff] using sound

/-- A document is charged with a violation exactly where it breaks the shape in that way first. -/
theorem documentViolation?_eq_some_iff (doc : Node) (v : Violation) :
    documentViolation? doc = some v ↔ BreaksDocument doc v := by
  unfold documentViolation?
  -- The charges are compared one by one, first from the check to the shape and then back.
  constructor
  · intro charged
    split at charged
    · rename_i versioned
      rw [version_eq_one_iff] at versioned
      cases listed : (doc.get? "policies").bind Node.items? with
      | none =>
        simp only [listed, Option.some.injEq] at charged
        subst charged
        refine .policies versioned fun policies isList => ?_
        rw [(policies_eq_some_iff doc policies).mpr isList] at listed
        cases listed
      | some policies =>
        -- The policy that is charged is the first one that breaks the shape.
        simp only [listed, List.findSome?_eq_some_iff, policyViolation?_eq_none_iff,
          policyViolation?_eq_some_iff] at charged
        obtain ⟨before, policy, after, parts, breaks, sound⟩ := charged
        subst parts
        exact .policy versioned ((policies_eq_some_iff doc _).mp listed) sound breaks
    · rename_i wrong
      cases charged
      exact .version fun versioned => wrong ((version_eq_one_iff doc).mpr versioned)
  · intro breaks
    cases breaks with
    | version wrong => rw [if_neg (mt (version_eq_one_iff doc).mp wrong)]
    | policies versioned wrong =>
      rw [if_pos ((version_eq_one_iff doc).mpr versioned)]
      cases listed : (doc.get? "policies").bind Node.items? with
      | none => rfl
      | some policies => exact absurd ((policies_eq_some_iff doc policies).mp listed) (wrong _)
    -- The search for a charge passes over the sound policies in front.
    | policy versioned listed sound breaks =>
      rw [if_pos ((version_eq_one_iff doc).mpr versioned),
        (policies_eq_some_iff doc _).mpr listed]
      simp only [List.findSome?_eq_some_iff, policyViolation?_eq_none_iff,
        policyViolation?_eq_some_iff]
      exact ⟨_, _, _, rfl, breaks, sound⟩

/-- The errors of policies begin with the violation of the first policy that has one. -/
theorem findSome?_errorsFrom (policies : List Node) (index : Nat) :
    (errorsFrom index policies).findSome? (·.violation) =
      policies.findSome? policyViolation? := by
  -- Each policy adds its own errors, under an index that no violation shows.
  induction policies generalizing index with
  | nil => rfl
  | cons policy rest ih =>
    rw [errorsFrom, List.findSome?_append, findSome?_policyErrors, ih, List.findSome?_cons]
    -- Either this policy is charged, or the search goes on in the rest.
    cases policyViolation? policy <;> rfl

/-- The errors of a document begin with its first violation. -/
theorem findSome?_documentErrors (doc : Node) :
    (documentErrors doc).findSome? (·.violation) = documentViolation? doc := by
  -- Values without keys have no version, and this is what they are charged with.
  cases doc with
  | mapping entries =>
    cases entries with
    | nil => rfl
    | cons entry rest =>
      dsimp only [documentErrors, versionErrors, documentViolation?]
      generalize Node.mapping (entry :: rest) = doc
      rw [List.findSome?_append]
      -- With a wrong version nothing behind it is looked at.
      split
      · cases (doc.get? "policies").bind Node.items? with
        | none => rfl
        | some policies => simp [findSome?_errorsFrom]
      · rfl
  | null | bool | int | float | string | sequence => rfl

/-- The verdict on a document is its first violation. -/
theorem validatePolicy_eq (doc : Node) :
    validatePolicy doc =
      match documentViolation? doc with
      | some v => .error v
      | none => .ok () := by
  -- A run over everything has the same verdict, and its errors are known.
  rw [← result_validate .collectAll doc, validate_collectAll, ← findSome?_documentErrors]
  rfl

/--
A document is accepted exactly where it has the right shape.

Any other document is refused for what it violates first: the version, then the type of the
policies, then the first policy that breaks the shape.
-/
theorem validatePolicy_exact (doc : Node) :
    (validatePolicy doc = .ok () ↔ IsPolicyDocument doc) ∧
    ∀ v, validatePolicy doc = .error v ↔ BreaksDocument doc v := by
  constructor
  · rw [validatePolicy_eq, ← documentViolation?_eq_none_iff]
    cases documentViolation? doc with
    | none => simp
    | some u => simp
  · intro v
    rw [validatePolicy_eq, ← documentViolation?_eq_some_iff]
    cases documentViolation? doc with
    | none => simp
    | some u => simp

end ToolPolicy
