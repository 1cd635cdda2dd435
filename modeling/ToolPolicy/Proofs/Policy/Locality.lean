import Mathlib.Data.List.Nodup
import ToolPolicy.Proofs.Policy.Modes
import ToolPolicy.Proofs.Policy.Shape
import ToolPolicy.Proofs.Text.Digits

/-! Each policy of a document has errors of its own: what is wrong with it does not depend on the
policies around it. -/

namespace ToolPolicy

/-- A document with a single policy, and with nothing wrong around it. -/
def loneDocument (policy : Node) : Node :=
  .mapping [("version", .int 1), ("policies", .sequence [policy])]

/-- A path with another policy in the place of the first one. -/
def movedPath (index : Nat) (path : String) : String :=
  match path.toList.dropPrefix? (policyPath 0).toList with
  | some rest => policyPath index ++ String.ofList rest
  | none => path

/-- A finding about the first policy, as one about the policy with an index. -/
def Issue.movedTo (issue : Issue) (index : Nat) : Issue :=
  { issue with path := movedPath index issue.path }

/-- What is wrong with a policy on its own, as it is said of the policy with an index. -/
def errorsAlone (index : Nat) (policy : Node) : List Issue :=
  (validate .collectAll (loneDocument policy)).errors.map (·.movedTo index)

/-- A finding is about the policy with an index, or about a part of it. -/
def Issue.IsWithin (issue : Issue) (index : Nat) : Prop :=
  ∃ part, issue.path = policyPath index ++ part

/-! ### Paths of policies -/

/-- A path below a policy is moved by its beginning alone. -/
theorem movedPath_policyPath (index : Nat) (part : String) :
    movedPath index (policyPath 0 ++ part) = policyPath index ++ part := by
  -- What is dropped in front is exactly the path of the first policy.
  have dropped : (policyPath 0 ++ part).toList.dropPrefix? (policyPath 0).toList =
      some part.toList := by
    rw [String.toList_append]
    exact List.dropPrefix?_append_of_beq _ (beq_self_eq_true _)
  rw [movedPath, dropped]
  exact congrArg (policyPath index ++ ·) String.ofList_toList

/-- Moving a violation below the first policy keeps what is violated. -/
theorem movedTo_ofViolation (index : Nat) (part : String) (v : Violation) :
    (Issue.ofViolation (policyPath 0 ++ part) v).movedTo index =
      .ofViolation (policyPath index ++ part) v := by
  rw [Issue.movedTo, Issue.ofViolation, movedPath_policyPath]
  rfl

/-- The characters of a path below a policy: the digits of the index end at the bracket. -/
theorem toList_policyPath_append (index : Nat) (part : String) :
    (policyPath index ++ part).toList =
      "policies[".toList ++ (Digits.ofNat index ++ ']' :: part.toList) := by
  simp [policyPath, Digits.nat, String.toList_append]

/-- A path lies below one policy only. -/
theorem index_eq_of_policyPath {i j : Nat} {part other : String}
    (same : policyPath i ++ part = policyPath j ++ other) : i = j := by
  have chars := congrArg String.toList same
  rw [toList_policyPath_append, toList_policyPath_append, List.append_cancel_left_eq] at chars
  -- The index is read off the digits in front of the bracket, which is no digit itself.
  have digits (n : Nat) (rest : List Char) :
      (Digits.ofNat n ++ ']' :: rest).takeWhile Char.isDigit = Digits.ofNat n := by
    have all : ∀ c ∈ Digits.ofNat n, c.isDigit = true := fun c member =>
      Digits.isDigit_of_mem_ofNat member
    rw [List.takeWhile_append_of_pos all, List.takeWhile_cons_of_neg (by decide), List.append_nil]
  have texts := congrArg (List.takeWhile Char.isDigit) chars
  rw [digits, digits] at texts
  rw [← Digits.toNat_ofNat i, texts, Digits.toNat_ofNat]

/-- A finding about the version is about no policy. -/
theorem not_isWithin_version (v : Violation) (index : Nat) :
    ¬(Issue.ofViolation "version" v).IsWithin index := by
  -- Every path below a policy begins like the others.
  rintro ⟨part, path⟩
  have chars := congrArg String.toList path
  rw [toList_policyPath_append] at chars
  -- Already the first characters differ.
  have first := congrArg List.head? chars
  revert first
  simp [Issue.ofViolation]

/-! ### The errors of a policy -/

/-- At another index the same is wrong with a policy, below another path. -/
theorem map_movedTo_policyErrors (index : Nat) (policy : Node) :
    (policyErrors 0 policy).map (·.movedTo index) = policyErrors index policy := by
  unfold policyErrors
  cases idText? policy with
  | none => simp [movedTo_ofViolation]
  | some id =>
    -- What is missing after the identifier is missing at every index.
    cases ruled : (policy.getPresent? "rule").isSome <;> cases tooled : hasTools policy <;>
      simp [bodyErrors, ruled, tooled, movedTo_ofViolation]

/-- On its own a policy has the errors that it has among others. -/
theorem errorsAlone_eq (index : Nat) (policy : Node) :
    errorsAlone index policy = policyErrors index policy := by
  -- Around the policy there is nothing that could be wrong.
  have alone : (validate .collectAll (loneDocument policy)).errors = policyErrors 0 policy := by
    rw [validate_collectAll]
    exact List.append_nil (policyErrors 0 policy)
  rw [errorsAlone, alone, map_movedTo_policyErrors]

/-- A policy has no errors exactly where it is accepted on its own. -/
theorem errorsAlone_eq_nil_iff (index : Nat) (policy : Node) :
    errorsAlone index policy = [] ↔ validatePolicy (loneDocument policy) = .ok () := by
  rw [errorsAlone, List.map_eq_nil_iff, ← isValid_validate_iff .collectAll, Report.isValid,
    List.isEmpty_iff]

/-- A policy has at most two errors. -/
theorem length_policyErrors_le (index : Nat) (policy : Node) :
    (policyErrors index policy).length ≤ 2 := by
  unfold policyErrors
  cases idText? policy with
  | none => simp
  | some id =>
    -- Beyond a missing identifier only the rule and the tools can be missing.
    cases ruled : (policy.getPresent? "rule").isSome <;> cases tooled : hasTools policy <;>
      simp [bodyErrors, ruled, tooled]

/-- The errors of a policy are about that policy. -/
theorem isWithin_of_mem_policyErrors {index : Nat} {policy : Node} {issue : Issue}
    (member : issue ∈ policyErrors index policy) : issue.IsWithin index := by
  unfold policyErrors at member
  cases identified : idText? policy with
  -- Without an identifier there is the one error about it.
  | none =>
    rw [identified, List.mem_singleton] at member
    exact ⟨".id", congrArg Issue.path member⟩
  | some id =>
    rw [identified] at member
    dsimp only [bodyErrors] at member
    rw [List.mem_append] at member
    -- There is an error about the rule, or one about the tools.
    rcases member with unruled | untooled
    · split at unruled
      · cases unruled
      · exact ⟨".rule", congrArg Issue.path (List.mem_singleton.mp unruled)⟩
    · split at untooled
      · cases untooled
      · exact ⟨".applies_to.tools", congrArg Issue.path (List.mem_singleton.mp untooled)⟩

/-- The errors of a policy are about different parts of it. -/
theorem nodup_paths_policyErrors (index : Nat) (policy : Node) :
    ((policyErrors index policy).map Issue.path).Nodup := by
  -- The parts that can be missing together are the rule and the tools.
  have parts : policyPath index ++ ".rule" ≠ policyPath index ++ ".applies_to.tools" := by
    intro same
    have chars := congrArg String.toList same
    rw [String.toList_append, String.toList_append, List.append_cancel_left_eq] at chars
    revert chars
    decide
  unfold policyErrors
  cases idText? policy with
  | none => simp
  | some id =>
    cases ruled : (policy.getPresent? "rule").isSome <;> cases tooled : hasTools policy <;>
      simp [bodyErrors, ruled, tooled, Issue.ofViolation, parts]

/-! ### The errors of a document -/

/-- The errors of policies are those of each of them at its place. -/
theorem errorsFrom_eq_flatten (index : Nat) (policies : List Node) :
    errorsFrom index policies =
      (policies.mapIdx fun i policy => policyErrors (index + i) policy).flatten := by
  induction policies generalizing index with
  | nil => rfl
  | cons policy rest ih =>
    rw [errorsFrom, ih, List.mapIdx_cons, List.flatten_cons]
    -- Behind the first policy all indices are one greater.
    simp only [Nat.add_zero, Nat.add_assoc, Nat.add_comm 1]

/-- The errors of policies are about policies from the first index on. -/
theorem exists_isWithin_of_mem_errorsFrom {index : Nat} {policies : List Node} {issue : Issue}
    (member : issue ∈ errorsFrom index policies) : ∃ i, index ≤ i ∧ issue.IsWithin i := by
  -- The index grows along the list, so that later policies are about greater ones.
  induction policies generalizing index with
  | nil => cases member
  | cons policy rest ih =>
    rw [errorsFrom, List.mem_append] at member
    rcases member with here | later
    · exact ⟨index, Nat.le_refl index, isWithin_of_mem_policyErrors here⟩
    · obtain ⟨i, after, within⟩ := ih later
      exact ⟨i, by omega, within⟩

/-- No two errors of policies are about the same part of the same policy. -/
theorem nodup_paths_errorsFrom (index : Nat) (policies : List Node) :
    ((errorsFrom index policies).map Issue.path).Nodup := by
  induction policies generalizing index with
  | nil => exact List.nodup_nil
  | cons policy rest ih =>
    rw [errorsFrom, List.map_append, List.nodup_append]
    refine ⟨nodup_paths_policyErrors index policy, ih (index + 1), ?_⟩
    -- An error of this policy and one of a later policy differ by the index in their paths.
    intro path here other there same
    obtain ⟨issue, member, rfl⟩ := List.mem_map.mp here
    obtain ⟨later, memberLater, rfl⟩ := List.mem_map.mp there
    obtain ⟨part, below⟩ := isWithin_of_mem_policyErrors member
    obtain ⟨i, after, otherPart, belowLater⟩ := exists_isWithin_of_mem_errorsFrom memberLater
    rw [below, belowLater] at same
    have := index_eq_of_policyPath same
    omega

/-- Where its policies are a sequence, a document has the errors of its version and those of its
policies. -/
theorem errors_collectAll {doc : Node} {policies : List Node}
    (listed : doc.get? "policies" = some (.sequence policies)) :
    (validate .collectAll doc).errors = versionErrors doc ++ errorsFrom 0 policies := by
  -- A document with something under a key is no empty mapping.
  obtain ⟨entries, rfl, found⟩ := (Node.get?_eq_some_iff _ _ _).mp listed
  cases entries with
  | nil => cases found
  | cons entry rest =>
    rw [validate_collectAll]
    dsimp only [documentErrors]
    rw [listed]
    rfl

/-- No two errors of a document have one path. -/
theorem nodup_paths_collectAll {doc : Node} {policies : List Node}
    (listed : doc.get? "policies" = some (.sequence policies)) :
    ((validate .collectAll doc).errors.map Issue.path).Nodup := by
  rw [errors_collectAll listed, List.map_append, List.nodup_append]
  refine ⟨?_, nodup_paths_errorsFrom 0 policies, ?_⟩
  · unfold versionErrors
    split
    · exact List.nodup_nil
    · exact List.nodup_singleton _
  · -- The version is no part of a policy.
    intro path here other there same
    obtain ⟨issue, member, rfl⟩ := List.mem_map.mp here
    obtain ⟨later, memberLater, rfl⟩ := List.mem_map.mp there
    obtain ⟨i, -, part, below⟩ := exists_isWithin_of_mem_errorsFrom memberLater
    unfold versionErrors at member
    split at member
    · cases member
    · rw [List.mem_singleton] at member
      subst member
      exact not_isWithin_version .invalidVersion i ⟨part, same.trans below⟩

/--
What is wrong with a document is what is wrong with its version and then with each policy in turn.

A policy has one or two errors, below its own path, exactly where it is refused on its own, and they
are those it has on its own. No two errors have one path, and with another policy in the place of
one of them only the errors at that place change.
-/
theorem errors_blockwise {doc : Node} {policies : List Node}
    (listed : doc.get? "policies" = some (.sequence policies)) :
    (doc.get? "version" = some (.int 1) → versionErrors doc = []) ∧
    (doc.get? "version" ≠ some (.int 1) →
      versionErrors doc = [.ofViolation "version" .invalidVersion]) ∧
    (validate .collectAll doc).errors =
      versionErrors doc ++ (policies.mapIdx errorsAlone).flatten ∧
    (∀ index policy,
      (errorsAlone index policy = [] ↔ validatePolicy (loneDocument policy) = .ok ()) ∧
      (errorsAlone index policy).length ≤ 2 ∧
      ∀ issue ∈ errorsAlone index policy, issue.IsWithin index) ∧
    ((validate .collectAll doc).errors.map Issue.path).Nodup ∧
    ∀ changed index policy, changed.get? "version" = doc.get? "version" →
      changed.get? "policies" = some (.sequence (policies.set index policy)) →
      (validate .collectAll changed).errors = versionErrors doc ++
        ((policies.mapIdx errorsAlone).set index (errorsAlone index policy)).flatten := by
  have alone : errorsAlone = policyErrors := by
    funext index policy
    exact errorsAlone_eq index policy
  -- The errors of the policies one after the other are the blocks of each policy alone.
  have blocks (some : List Node) : errorsFrom 0 some = (some.mapIdx errorsAlone).flatten := by
    rw [errorsFrom_eq_flatten, alone]
    simp only [Nat.zero_add]
  refine ⟨fun right => ?_, fun wrong => ?_, ?_, fun index policy => ⟨?_, ?_, ?_⟩, ?_, ?_⟩
  · rw [versionErrors, if_pos ((version_eq_one_iff doc).mpr right)]
  · rw [versionErrors, if_neg (mt (version_eq_one_iff doc).mp wrong)]
  · rw [errors_collectAll listed, blocks]
  · exact errorsAlone_eq_nil_iff index policy
  · rw [errorsAlone_eq]
    exact length_policyErrors_le index policy
  · rw [errorsAlone_eq]
    exact fun issue => isWithin_of_mem_policyErrors
  · exact nodup_paths_collectAll listed
  · intro changed index policy sameVersion listedAgain
    have version : versionErrors changed = versionErrors doc := by
      rw [versionErrors, versionErrors, sameVersion]
    -- Setting one policy sets its block among the blocks.
    rw [errors_collectAll listedAgain, version, blocks, List.mapIdx_set]

/-- A policy that can be accepted. -/
def soundPolicy : Node :=
  .mapping [("id", .string "sound"), ("rule", .string "deny"),
    ("applies_to", .mapping [("tools", .sequence [.string "*"])])]

/-- A policy with an identifier and nothing else. -/
def barePolicy : Node := .mapping [("id", .string "bare")]

/-- A document of an unknown version with these policies. -/
def secondVersion (policies : List Node) : Node :=
  .mapping [("version", .int 2), ("policies", .sequence policies)]

/-- With a sound policy in the place of the bare one, its two errors are gone and the others
stay. -/
theorem secondVersion_mended :
    (validate .collectAll (secondVersion [.null, soundPolicy, barePolicy])).errors =
      [.ofViolation "version" .invalidVersion, .ofViolation "policies[0].id" .missingId,
        .ofViolation "policies[2].rule" (.missingRule "bare"),
        .ofViolation "policies[2].applies_to.tools" (.missingTools "bare")] ∧
    (validate .collectAll (secondVersion [.null, soundPolicy, soundPolicy])).errors =
      [.ofViolation "version" .invalidVersion, .ofViolation "policies[0].id" .missingId] := by
  have listed : (secondVersion [.null, soundPolicy, barePolicy]).get? "policies" =
      some (.sequence [.null, soundPolicy, barePolicy]) := rfl
  obtain ⟨-, wrong, whole, -, -, changed⟩ := errors_blockwise listed
  have mended := changed (secondVersion [.null, soundPolicy, soundPolicy]) 2 soundPolicy rfl rfl
  have unknown : (secondVersion [.null, soundPolicy, barePolicy]).get? "version" ≠
      some (.int 1) := by
    rw [show (secondVersion _).get? "version" = some (.int 2) from rfl]
    simp
  -- The list of all errors is put together from that of the version and those of the policies.
  rw [whole, mended, wrong unknown]
  exact ⟨by decide +kernel, by decide +kernel⟩

end ToolPolicy
