import ToolPolicy.Program.Check

/-! A run that fails fast finds the beginning of what a run over the whole document finds. -/

namespace ToolPolicy

namespace Walk

/--
A run that fails fast goes along with a run that collects everything, up to the first violation.

From there on the first run stands still, while the second one only adds to its findings.
-/
inductive Follows : Walk → Walk → Prop
  /-- Nothing is violated so far, and both runs have the same warnings. -/
  | alongside (warnings : List Issue) :
      Follows ⟨⟨[], warnings⟩, false⟩ ⟨⟨[], warnings⟩, false⟩
  /-- The first run has stopped at what is the first violation for the second run, too. -/
  | stopped (path : String) (v : Violation) (later warnings more : List Issue) :
      Follows ⟨⟨[.ofViolation path v], warnings⟩, true⟩
        ⟨⟨.ofViolation path v :: later, warnings ++ more⟩, false⟩

/-- Warnings reach both runs, or only the one that still goes on. -/
theorem Follows.warn {fast full : Walk} (follows : Follows fast full) (issues : List Issue) :
    Follows (fast.warn issues) (full.warn issues) := by
  cases follows with
  -- Neither run has stopped, and both take in the same warnings.
  | alongside warnings => exact .alongside (warnings ++ issues)
  | stopped path v later warnings more =>
    -- The run that has stopped is where it was, so that the warnings are further ones.
    simp only [Walk.warn, if_true, Bool.false_eq_true, if_false, List.append_assoc]
    exact .stopped path v later warnings (more ++ issues)

/-- A violation stops the first run, unless an earlier one has done so. -/
theorem Follows.fail {fast full : Walk} (follows : Follows fast full) (path : String)
    (v : Violation) : Follows (fast.fail .failFast path v) (full.fail .collectAll path v) := by
  cases follows with
  | alongside warnings =>
    -- The first run stops here, and so far the second one has found nothing more.
    have here := Follows.stopped path v [] warnings []
    rw [List.append_nil] at here
    exact here
  | stopped first u later warnings more =>
    -- The later violation joins the others behind the first one.
    simp only [Walk.fail, if_true, Bool.false_eq_true, if_false, List.cons_append]
    exact .stopped first u (later ++ [.ofViolation path v]) warnings more

/-- A check that both runs make alike keeps them together, whether it passes or not. -/
theorem Follows.check {fast full : Walk} (follows : Follows fast full) (passes : Prop)
    [Decidable passes] (path : String) (v : Violation) :
    Follows (if passes then fast else fast.fail .failFast path v)
      (if passes then full else full.fail .collectAll path v) := by
  split
  · exact follows
  · exact follows.fail path v

end Walk

open Walk

/-- What follows the identifier of a policy keeps the runs together. -/
theorem checkBody_follows {fast full : Walk} (follows : Follows fast full) (index : Nat)
    (policy : Node) (id : String) :
    Follows (checkBody .failFast index policy id fast)
      (checkBody .collectAll index policy id full) := by
  unfold checkBody
  -- Each step of the check is made by both runs, and each keeps them together.
  have keys := follows.warn (unknownKeyWarnings (policyPath index) policyKeys policy)
  have rule := keys.check ((policy.getPresent? "rule").isSome = true) (policyPath index ++ ".rule")
    (.missingRule id)
  -- Only a policy with a scope is warned about the keys of its scope.
  apply Follows.check
  cases scope? policy with
  | none => exact rule
  | some scope => exact rule.warn _

/-- A policy keeps the runs together, and both then know the same identifiers. -/
theorem checkPolicy_follows {fast full : Walk} (follows : Follows fast full) (index : Nat)
    (policy : Node) (seen : SeenIds) :
    (checkPolicy .failFast index policy (seen, fast)).1 =
        (checkPolicy .collectAll index policy (seen, full)).1 ∧
      Follows (checkPolicy .failFast index policy (seen, fast)).2
        (checkPolicy .collectAll index policy (seen, full)).2 := by
  simp only [checkPolicy]
  cases idText? policy with
  -- Without an identifier neither run looks any further into the policy.
  | none => exact ⟨rfl, follows.fail _ _⟩
  | some id =>
    -- Whether the identifier is a repeated one does not depend on the mode.
    dsimp only
    cases seen.lookup id with
    | none => exact ⟨rfl, checkBody_follows follows index policy id⟩
    | some first => exact ⟨rfl, checkBody_follows (follows.warn _) index policy id⟩

/-- The policies keep the runs together. -/
theorem checkPolicies_follows (policies : List Node) {fast full : Walk}
    (follows : Follows fast full) (index : Nat) (seen : SeenIds) :
    Follows (checkPolicies .failFast index policies (seen, fast)).2
      (checkPolicies .collectAll index policies (seen, full)).2 := by
  -- The identifiers change from policy to policy, and they do so alike in both runs.
  induction policies generalizing fast full index seen with
  | nil => exact follows
  | cons policy rest ih =>
    obtain ⟨sameSeen, next⟩ := checkPolicy_follows follows index policy seen
    have later := ih next (index + 1) (checkPolicy .failFast index policy (seen, fast)).1
    rw [checkPolicies, checkPolicies]
    rw [← Prod.eta (checkPolicy .collectAll index policy (seen, full)), ← sameSeen]
    exact later

/-- A whole document keeps the runs together. -/
theorem checkDocument_follows (doc : Node) :
    Follows (checkDocument .failFast doc ⟨.empty, false⟩)
      (checkDocument .collectAll doc ⟨.empty, false⟩) := by
  have start : Follows ⟨.empty, false⟩ ⟨.empty, false⟩ := .alongside []
  unfold checkDocument
  split
  · rename_i entry rest
    -- The keys are only warned about, and the version is the first thing that can be violated.
    have keys := start.warn (unknownKeyWarnings "" documentKeys (.mapping (entry :: rest)))
    have version := keys.check
      (((Node.mapping (entry :: rest)).get? "version").bind Node.asInt? = some 1) "version"
      .invalidVersion
    dsimp only
    cases ((Node.mapping (entry :: rest)).get? "policies").bind Node.items? with
    | none => exact version.fail "policies" .invalidPoliciesType
    -- No identifiers are known before the first policy.
    | some policies => exact checkPolicies_follows policies version 0 []
  · -- Nothing else is said of a value that is no mapping, or an empty one.
    exact start.fail "" .invalidVersion

/-- Either both modes find nothing wrong, or one violation is the first one in both. -/
theorem validate_modes (doc : Node) :
    (∃ warnings, validate .failFast doc = ⟨[], warnings⟩ ∧
      validate .collectAll doc = ⟨[], warnings⟩) ∨
    ∃ path v later warnings more,
      validate .failFast doc = ⟨[.ofViolation path v], warnings⟩ ∧
      validate .collectAll doc = ⟨.ofViolation path v :: later, warnings ++ more⟩ := by
  have follows := checkDocument_follows doc
  -- The reports are what the two runs have found in the end.
  generalize ran : checkDocument .failFast doc ⟨.empty, false⟩ = fast at follows
  generalize collected : checkDocument .collectAll doc ⟨.empty, false⟩ = full at follows
  have fastReport : validate .failFast doc = fast.report := congrArg Walk.report ran
  have fullReport : validate .collectAll doc = full.report := congrArg Walk.report collected
  rw [fastReport, fullReport]
  cases follows with
  | alongside warnings => exact .inl ⟨warnings, rfl, rfl⟩
  | stopped path v later warnings more =>
    exact .inr ⟨path, v, later, warnings, more, rfl, rfl⟩

/-- The verdict on a document does not depend on the mode. -/
theorem result_validate (mode : Mode) (doc : Node) :
    (validate mode doc).result = validatePolicy doc := by
  unfold validatePolicy
  cases mode with
  | failFast => rfl
  | collectAll =>
    -- The verdict of a report is read off its first error, which is the same in both modes.
    rcases validate_modes doc with
      ⟨warnings, ran, collected⟩ | ⟨path, v, later, warnings, more, ran, collected⟩
    · rw [ran, collected]
    · rw [ran, collected]
      simp [Report.result, Report.firstViolation?, Issue.ofViolation]

/-- The first violation of a report is that of its first error. -/
theorem firstViolation?_validate (mode : Mode) (doc : Node) :
    (validate mode doc).firstViolation? = (validate mode doc).errors.head?.bind (·.violation) := by
  -- No error is passed over, since each of them is the finding of a violation.
  rcases validate_modes doc with
    ⟨warnings, ran, collected⟩ | ⟨path, v, later, warnings, more, ran, collected⟩
  · cases mode <;> simp [ran, collected, Report.firstViolation?]
  · cases mode <;> simp [ran, collected, Report.firstViolation?, Issue.ofViolation]

/-- A run that fails fast has the first error of a full run. -/
theorem errors_failFast (doc : Node) :
    (validate .failFast doc).errors = (validate .collectAll doc).errors.take 1 := by
  -- Of two runs that are apart, the first has the one error at which it stopped.
  rcases validate_modes doc with
    ⟨warnings, ran, collected⟩ | ⟨path, v, later, warnings, more, ran, collected⟩
  · simp [ran, collected]
  · simp [ran, collected]

/-- The warnings of a run that fails fast are the first ones of a full run. -/
theorem warnings_failFast_prefix (doc : Node) :
    (validate .failFast doc).warnings <+: (validate .collectAll doc).warnings := by
  rcases validate_modes doc with
    ⟨warnings, ran, collected⟩ | ⟨path, v, later, warnings, more, ran, collected⟩
  · simp [ran, collected]
  · rw [ran, collected]
    exact List.prefix_append warnings more

/-- Where nothing is wrong, both modes have the same warnings. -/
theorem warnings_failFast_eq {doc : Node} (clean : (validate .collectAll doc).errors = []) :
    (validate .failFast doc).warnings = (validate .collectAll doc).warnings := by
  rcases validate_modes doc with
    ⟨warnings, ran, collected⟩ | ⟨path, v, later, warnings, more, ran, collected⟩
  · rw [ran, collected]
  · -- A run that has stopped did so at an error of the full run.
    rw [collected] at clean
    cases clean

/-- A report is without errors exactly where its verdict is favorable. -/
theorem isValid_validate_iff (mode : Mode) (doc : Node) :
    (validate mode doc).isValid = true ↔ validatePolicy doc = .ok () := by
  rw [← result_validate mode doc]
  -- An error that named no violation would be passed over by the verdict, but there is none.
  rcases validate_modes doc with
    ⟨warnings, ran, collected⟩ | ⟨path, v, later, warnings, more, ran, collected⟩
  · cases mode <;> simp [ran, collected, Report.isValid, Report.result, Report.firstViolation?]
  · cases mode <;>
      simp [ran, collected, Report.isValid, Report.result, Report.firstViolation?,
        Issue.ofViolation]

/-- The modes have the same warnings about a document that is accepted. -/
theorem warnings_validate_eq {doc : Node} (accepted : validatePolicy doc = .ok ())
    (mode : Mode) : (validate mode doc).warnings = (validate .collectAll doc).warnings := by
  cases mode with
  | collectAll => rfl
  | failFast =>
    exact warnings_failFast_eq
      (List.isEmpty_iff.mp ((isValid_validate_iff .collectAll doc).mpr accepted))

/-- A document has rules exactly where its tree is accepted. -/
theorem exists_ofNode_iff (doc : Node) :
    (∃ document, PolicyDocument.ofNode doc = .ok document) ↔ validatePolicy doc = .ok () := by
  unfold PolicyDocument.ofNode
  -- A tree is read once it has been accepted, and then always.
  cases validatePolicy doc with
  | error v => simp
  | ok accepted => simp

/-- A tree without rules is refused for its first violation. -/
theorem ofNode_eq_error_iff (doc : Node) (v : Violation) :
    PolicyDocument.ofNode doc = .error v ↔ validatePolicy doc = .error v := by
  unfold PolicyDocument.ofNode
  cases validatePolicy doc with
  | error u => simp
  | ok accepted => simp

/-- The tests of a document run wherever its tree is accepted. -/
theorem outcomesOf_validate {mode : Mode} {doc : Node} {document : PolicyDocument}
    (typed : PolicyDocument.ofNode doc = .ok document) :
    Program.outcomesOf doc (validate mode doc) = runTests document.policies := by
  -- A tree with rules has a report without errors, so that its tests are not left out.
  have accepted : (validate mode doc).isValid = true :=
    (isValid_validate_iff mode doc).mpr ((exists_ofNode_iff doc).mp ⟨document, typed⟩)
  simp [Program.outcomesOf, accepted, typed]

/--
The two modes agree on every document.

A run that fails fast has the first error of a full run and a beginning of its warnings, all of
them where nothing is wrong. Verdict, acceptance, typed document and tests are those of the full
run in either mode.
-/
theorem validate_modes_agree (doc : Node) :
    (validate .failFast doc).errors = (validate .collectAll doc).errors.take 1 ∧
    (validate .failFast doc).warnings <+: (validate .collectAll doc).warnings ∧
    ((validate .collectAll doc).errors = [] →
      (validate .failFast doc).warnings = (validate .collectAll doc).warnings) ∧
    validatePolicy doc = (validate .collectAll doc).result ∧
    ∀ mode : Mode,
      ((validate mode doc).isValid = true ↔ (validate .collectAll doc).result = .ok ()) ∧
      ((∃ document, PolicyDocument.ofNode doc = .ok document) ↔
        (validate mode doc).isValid = true) ∧
      (∀ v, PolicyDocument.ofNode doc = .error v ↔
        (validate mode doc).errors.head?.bind (·.violation) = some v) ∧
      ∀ document, PolicyDocument.ofNode doc = .ok document →
        Program.outcomesOf doc (validate mode doc) = runTests document.policies := by
  refine ⟨errors_failFast doc, warnings_failFast_prefix doc, warnings_failFast_eq,
    (result_validate .collectAll doc).symm, fun mode => ⟨?_, ?_, ?_, ?_⟩⟩
  · rw [isValid_validate_iff, result_validate]
  · rw [isValid_validate_iff, exists_ofNode_iff]
  · intro v
    rw [ofNode_eq_error_iff, ← result_validate mode doc, ← firstViolation?_validate]
    unfold Report.result
    cases (validate mode doc).firstViolation? with
    | none => simp
    | some u => simp
  · intro document typed
    exact outcomesOf_validate typed

end ToolPolicy
