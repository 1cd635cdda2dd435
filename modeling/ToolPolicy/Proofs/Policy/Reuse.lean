import ToolPolicy.Policy.Validator

/-! A validator judges document after document: a run leaves nothing behind for the next one, and
whatever it finds, its report keeps violations and warnings apart. -/

namespace ToolPolicy

/-- A finding that counts against its document and says what its violation says. -/
def Issue.IsError (i : Issue) : Prop :=
  i.severity = .error ∧ ∃ v, i.violation = some v ∧ i.message = v.message

/-- A finding that counts against nothing. -/
def Issue.IsWarning (i : Issue) : Prop := i.severity = .warning ∧ i.violation = none

/-- A report whose findings stand where they belong. -/
structure Report.IsSorted (r : Report) : Prop where
  errors : ∀ issue ∈ r.errors, issue.IsError
  warnings : ∀ issue ∈ r.warnings, issue.IsWarning

/-- A report without findings has none in the wrong place. -/
theorem Report.isSorted_empty : Report.empty.IsSorted := ⟨nofun, nofun⟩

/-- Unknown keys are only warned about. -/
theorem isWarning_of_mem_unknownKeyWarnings {parent : String} {known : List String} {value : Node}
    {issue : Issue} (member : issue ∈ unknownKeyWarnings parent known value) : issue.IsWarning := by
  unfold unknownKeyWarnings at member
  split at member
  · obtain ⟨key, _, rfl⟩ := List.mem_map.mp member
    exact ⟨rfl, rfl⟩
  · cases member

namespace Walk

/-- A violation joins the errors, unless the run has stopped before. -/
theorem isSorted_fail {w : Walk} (sorted : w.report.IsSorted) (mode : Mode) (path : String)
    (v : Violation) : (w.fail mode path v).report.IsSorted := by
  unfold Walk.fail
  -- A run that has stopped notes nothing more.
  split
  · exact sorted
  · refine ⟨fun issue member => ?_, sorted.warnings⟩
    rcases List.mem_append.mp member with before | new
    · exact sorted.errors issue before
    · cases List.mem_singleton.mp new
      exact ⟨rfl, v, rfl, rfl⟩

/-- Warnings join the warnings, unless the run has stopped before. -/
theorem isSorted_warn {w : Walk} (sorted : w.report.IsSorted) {issues : List Issue}
    (warnings : ∀ issue ∈ issues, issue.IsWarning) : (w.warn issues).report.IsSorted := by
  unfold Walk.warn
  split
  · exact sorted
  · refine ⟨sorted.errors, fun issue member => ?_⟩
    rcases List.mem_append.mp member with before | new
    · exact sorted.warnings issue before
    · exact warnings issue new

/-- A check leaves a sorted report, whether it passes or not. -/
theorem isSorted_check {w : Walk} (sorted : w.report.IsSorted) (passes : Prop) [Decidable passes]
    (mode : Mode) (path : String) (v : Violation) :
    (if passes then w else w.fail mode path v).report.IsSorted := by
  split
  · exact sorted
  · exact isSorted_fail sorted mode path v

/-- A search for unknown keys leaves a sorted report. -/
theorem isSorted_warn_unknownKeys {w : Walk} (sorted : w.report.IsSorted) (parent : String)
    (known : List String) (value : Node) :
    (w.warn (unknownKeyWarnings parent known value)).report.IsSorted :=
  isSorted_warn sorted fun _ member => isWarning_of_mem_unknownKeyWarnings member

end Walk

open Walk

/-- What follows the identifier of a policy leaves a sorted report. -/
theorem isSorted_checkBody {w : Walk} (sorted : w.report.IsSorted) (mode : Mode) (index : Nat)
    (policy : Node) (id : String) : (checkBody mode index policy id w).report.IsSorted := by
  unfold checkBody
  have keys := isSorted_warn_unknownKeys sorted (policyPath index) policyKeys policy
  have rule := isSorted_check keys ((policy.getPresent? "rule").isSome = true) mode
    (policyPath index ++ ".rule") (.missingRule id)
  -- The scope is searched between the two checks, where there is one.
  apply isSorted_check
  cases scope? policy with
  | none => exact rule
  | some scope => exact isSorted_warn_unknownKeys rule _ scopeKeys scope

/-- A policy leaves a sorted report. -/
theorem isSorted_checkPolicy {seen : SeenIds} {w : Walk} (sorted : w.report.IsSorted) (mode : Mode)
    (index : Nat) (policy : Node) :
    (checkPolicy mode index policy (seen, w)).2.report.IsSorted := by
  simp only [checkPolicy]
  cases idText? policy with
  -- A missing identifier is a violation, and the policy is left at that.
  | none => exact isSorted_fail sorted mode _ .missingId
  | some id =>
    dsimp only
    cases seen.lookup id with
    | none => exact isSorted_checkBody sorted mode index policy id
    | some first =>
      -- An identifier that comes again is one warning more, before the rest of the policy.
      have repeated : ∀ issue ∈ [duplicateIdWarning index first id], issue.IsWarning := by
        intro issue member
        cases List.mem_singleton.mp member
        exact ⟨rfl, rfl⟩
      exact isSorted_checkBody (isSorted_warn sorted repeated) mode index policy id

/-- Policies leave a sorted report, wherever the run stops. -/
theorem isSorted_checkPolicies {seen : SeenIds} {w : Walk} (sorted : w.report.IsSorted)
    (mode : Mode) (index : Nat) (policies : List Node) :
    (checkPolicies mode index policies (seen, w)).2.report.IsSorted := by
  -- Every policy is entered with a sorted report and leaves one.
  induction policies generalizing index seen w with
  | nil => exact sorted
  | cons policy rest ih =>
    rw [checkPolicies]
    exact ih (isSorted_checkPolicy sorted mode index policy) (index + 1)

/-- A document leaves a sorted report, wherever the run stops. -/
theorem isSorted_checkDocument {w : Walk} (sorted : w.report.IsSorted) (mode : Mode) (doc : Node) :
    (checkDocument mode doc w).report.IsSorted := by
  unfold checkDocument
  split
  · rename_i entry rest
    -- The steps of the walk are followed in their order, each from the report of the one before.
    have keys := isSorted_warn_unknownKeys sorted "" documentKeys (.mapping (entry :: rest))
    have version := isSorted_check keys
      (((Node.mapping (entry :: rest)).get? "version").bind Node.asInt? = some 1) mode "version"
      .invalidVersion
    dsimp only
    cases ((Node.mapping (entry :: rest)).get? "policies").bind Node.items? with
    | none => exact isSorted_fail version mode "policies" .invalidPoliciesType
    | some policies => exact isSorted_checkPolicies version mode 0 policies
  · -- Nothing else is said of a value that is no mapping, or an empty one.
    exact isSorted_fail sorted mode "" .invalidVersion

namespace Validator

/-- Whatever a validator holds, it runs like a fresh one of its mode, and is one afterwards. -/
theorem validate_eq_fresh (v : Validator) (doc : Node) :
    v.validate doc = (((ofMode v.mode).validate doc).1, ofMode v.mode) := rfl

/-- Every report of a validator is sorted. -/
theorem isSorted_validate (v : Validator) (doc : Node) : (v.validate doc).1.IsSorted :=
  isSorted_checkDocument Report.isSorted_empty v.mode doc

/--
Documents that one validator judges in turn get the reports of fresh validators of its mode.

This holds whatever the validator has found before and wherever its runs stop. In each report the
errors have the texts of their violations, and the warnings have no violation.
-/
theorem validateAll_eq_map (v : Validator) (docs : List Node) :
    (v.validateAll docs).1 = docs.map (fun doc => ((ofMode v.mode).validate doc).1) ∧
      ∀ report ∈ (v.validateAll docs).1, report.IsSorted := by
  induction docs generalizing v with
  | nil => exact ⟨rfl, nofun⟩
  | cons doc rest ih =>
    -- The run over the first document leaves a fresh validator to the others.
    obtain ⟨reports, sorted⟩ := ih (ofMode v.mode)
    have step : (v.validateAll (doc :: rest)).1 =
        ((ofMode v.mode).validate doc).1 :: ((ofMode v.mode).validateAll rest).1 := by
      rw [validateAll, validate_eq_fresh]
    rw [step]
    refine ⟨congrArg (_ :: ·) reports, fun report member => ?_⟩
    rcases List.mem_cons.mp member with rfl | later
    · exact isSorted_validate (ofMode v.mode) doc
    · exact sorted report later

/-- A validator that still holds a finding judges an absent document twice as if it were new. -/
theorem validateAll_eq_map_leftover :
    let v : Validator := ⟨.failFast, ⟨[.ofViolation "policies" .invalidPoliciesType], []⟩⟩
    (v.validateAll [.null, .null]).1 =
        [⟨[.ofViolation "" .invalidVersion], []⟩, ⟨[.ofViolation "" .invalidVersion], []⟩] ∧
      Report.IsSorted ⟨[.ofViolation "" .invalidVersion], []⟩ := by
  intro v
  obtain ⟨fresh, sorted⟩ := validateAll_eq_map v [.null, .null]
  exact ⟨fresh, sorted _ (by rw [fresh]; exact List.mem_cons_self)⟩

end Validator

end ToolPolicy
