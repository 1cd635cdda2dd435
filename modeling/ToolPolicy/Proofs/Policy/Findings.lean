import ToolPolicy.Policy.Validator

/-! What a run over a whole document finds, described policy by policy and without a run. -/

namespace ToolPolicy

/-- What is wrong with a policy that has an identifier. -/
def bodyErrors (index : Nat) (policy : Node) (id : String) : List Issue :=
  (if (policy.getPresent? "rule").isSome then []
    else [.ofViolation (policyPath index ++ ".rule") (.missingRule id)]) ++
  (if hasTools policy then []
    else [.ofViolation (policyPath index ++ ".applies_to.tools") (.missingTools id)])

/-- The warnings about the unknown keys of a policy and of its scope. -/
def bodyWarnings (index : Nat) (policy : Node) : List Issue :=
  unknownKeyWarnings (policyPath index) policyKeys policy ++
    match scope? policy with
    | some scope => unknownKeyWarnings (policyPath index ++ ".applies_to") scopeKeys scope
    -- A scope that does not count as present is not looked into.
    | none => []

/-- What is wrong with a policy: nothing more is said of one without an identifier. -/
def policyErrors (index : Nat) (policy : Node) : List Issue :=
  match idText? policy with
  | none => [.ofViolation (policyPath index ++ ".id") .missingId]
  | some id => bodyErrors index policy id

/-- The warnings about a policy, given the identifiers before it. -/
def policyWarnings (seen : SeenIds) (index : Nat) (policy : Node) : List Issue :=
  match idText? policy with
  | none => []
  | some id =>
    ((seen.lookup id).map fun first => duplicateIdWarning index first id).toList ++
      bodyWarnings index policy

/-- The identifiers that are known after a policy. -/
def seenAfter (seen : SeenIds) (index : Nat) (policy : Node) : SeenIds :=
  match idText? policy with
  | none => seen
  -- The first place of an identifier is kept, since that is the one that repetitions name.
  | some id => if (seen.lookup id).isSome then seen else seen ++ [(id, index)]

/-- What is wrong with policies that are numbered from an index on. -/
def errorsFrom (index : Nat) : List Node → List Issue
  | [] => []
  | policy :: rest => policyErrors index policy ++ errorsFrom (index + 1) rest

/-- The warnings about policies that are numbered from an index on. -/
def warningsFrom (seen : SeenIds) (index : Nat) : List Node → List Issue
  | [] => []
  | policy :: rest =>
    policyWarnings seen index policy ++
      warningsFrom (seenAfter seen index policy) (index + 1) rest

/-- What is wrong with the version of a document. -/
def versionErrors (doc : Node) : List Issue :=
  if (doc.get? "version").bind Node.asInt? = some 1 then []
  else [.ofViolation "version" .invalidVersion]

/-- What is wrong with a document, in the order in which it is read. -/
def documentErrors (doc : Node) : List Issue :=
  match doc with
  | .mapping (entry :: rest) =>
    versionErrors (.mapping (entry :: rest)) ++
      match ((Node.mapping (entry :: rest)).get? "policies").bind Node.items? with
      | none => [.ofViolation "policies" .invalidPoliciesType]
      | some policies => errorsFrom 0 policies
  -- A value that is no mapping, or an empty one, has no version, and nothing more is said of it.
  | _ => [.ofViolation "" .invalidVersion]

/-- The warnings about a document. -/
def documentWarnings (doc : Node) : List Issue :=
  unknownKeyWarnings "" documentKeys doc ++
    (((doc.get? "policies").bind Node.items?).map (warningsFrom [] 0)).getD []

/-- A run over everything notes what is wrong with a policy that has an identifier. -/
theorem checkBody_collectAll (index : Nat) (policy : Node) (id : String)
    (errors warnings : List Issue) :
    checkBody .collectAll index policy id ⟨⟨errors, warnings⟩, false⟩ =
      ⟨⟨errors ++ bodyErrors index policy id, warnings ++ bodyWarnings index policy⟩, false⟩ := by
  -- Four combinations of a missing rule and missing tools, each with and without a scope.
  cases ruled : (policy.getPresent? "rule").isSome <;> cases tooled : hasTools policy <;>
    cases applied : scope? policy <;>
    simp [checkBody, bodyErrors, bodyWarnings, ruled, tooled, applied, Walk.warn, Walk.fail]

/-- A run over everything notes what is wrong with a policy, and learns its identifier. -/
theorem checkPolicy_collectAll (index : Nat) (policy : Node) (seen : SeenIds)
    (errors warnings : List Issue) :
    checkPolicy .collectAll index policy (seen, ⟨⟨errors, warnings⟩, false⟩) =
      (seenAfter seen index policy,
        ⟨⟨errors ++ policyErrors index policy, warnings ++ policyWarnings seen index policy⟩,
          false⟩) := by
  -- Only an identifier that is there can be a repeated one, and only a new one is learned.
  cases identified : idText? policy with
  | none =>
    simp [checkPolicy, seenAfter, policyErrors, policyWarnings, identified, Walk.fail]
  | some id =>
    cases repeated : seen.lookup id with
    | none =>
      simp [checkPolicy, seenAfter, policyErrors, policyWarnings, identified, repeated,
        checkBody_collectAll]
    | some first =>
      simp [checkPolicy, seenAfter, policyErrors, policyWarnings, identified, repeated,
        checkBody_collectAll, Walk.warn]

/-- A run over everything notes what is wrong with each policy in turn. -/
theorem checkPolicies_collectAll (policies : List Node) (index : Nat) (seen : SeenIds)
    (errors warnings : List Issue) :
    (checkPolicies .collectAll index policies (seen, ⟨⟨errors, warnings⟩, false⟩)).2 =
      ⟨⟨errors ++ errorsFrom index policies, warnings ++ warningsFrom seen index policies⟩,
        false⟩ := by
  -- What was found before a policy stays in front of what is found from there on.
  induction policies generalizing index seen errors warnings with
  | nil => simp [checkPolicies, errorsFrom, warningsFrom]
  | cons policy rest ih =>
    rw [checkPolicies, checkPolicy_collectAll, ih]
    simp [errorsFrom, warningsFrom, List.append_assoc]

/-- A run over everything notes a wrong version and goes on. -/
theorem checkVersion_collectAll (doc : Node) (warnings : List Issue) :
    (if (doc.get? "version").bind Node.asInt? = some 1 then (⟨⟨[], warnings⟩, false⟩ : Walk)
      else Walk.fail ⟨⟨[], warnings⟩, false⟩ .collectAll "version" .invalidVersion) =
      ⟨⟨versionErrors doc, warnings⟩, false⟩ := by
  unfold versionErrors
  -- The version is judged alike on both sides.
  split
  · rfl
  · rfl

/-- The report of a run over everything. -/
theorem validate_collectAll (doc : Node) :
    validate .collectAll doc = ⟨documentErrors doc, documentWarnings doc⟩ := by
  have ran : validate .collectAll doc = (checkDocument .collectAll doc ⟨.empty, false⟩).report :=
    rfl
  rw [ran]
  cases doc with
  | mapping entries =>
    cases entries with
    | nil => rfl
    | cons entry rest =>
      simp only [checkDocument, documentErrors, documentWarnings]
      generalize Node.mapping (entry :: rest) = doc
      -- The keys are judged first, then the version, and the policies in the end.
      have keys : Walk.warn ⟨.empty, false⟩ (unknownKeyWarnings "" documentKeys doc) =
          ⟨⟨[], unknownKeyWarnings "" documentKeys doc⟩, false⟩ := rfl
      rw [keys, checkVersion_collectAll]
      cases (doc.get? "policies").bind Node.items? with
      | none => simp [Walk.fail]
      | some policies => simp [checkPolicies_collectAll]
  | null | bool | int | float | string | sequence => rfl

end ToolPolicy
