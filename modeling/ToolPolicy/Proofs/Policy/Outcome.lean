import ToolPolicy.Proofs.Policy.TestCase

/-! Which outcomes the tests of a document have: one for each test in its place, a pass exactly
where the policy decides as the test expects, and otherwise the message of what went wrong first. -/

namespace ToolPolicy

/-- A test expects something under a key. -/
def Expects (test : Node) (key : String) (value : Node) : Prop :=
  ∃ expectations, test.get? "expect" = some expectations ∧ expectations.get? key = some value

/-- A reason is there, and a pattern that can be compiled matches its text. -/
def FitsReason (pattern : String) (reason : Option Reason) : Prop :=
  ∃ regex given, Regex.compile pattern = .ok regex ∧ reason = some given ∧
    regex.isMatch given.text = true

namespace Rule

/-- A test passes: its input is a mapping, the policy decides on it as is expected, and a pattern
for the reason is met where there is one. -/
def Passes (r : Rule) (test : Node) : Prop :=
  ∃ input, test.get? "input" = some (.mapping input) ∧
    Expects test "allowed" (.bool (r.decide (.mapping input)).isAllowed) ∧
    ∀ pattern, Expects test "reason" (.string pattern) →
      FitsReason pattern (r.decide (.mapping input)).reason

/-- What goes wrong first in a test that does not pass. -/
inductive Fails (r : Rule) (test : Node) : TestFailure → Prop
  | noInput (missing : ∀ input, test.get? "input" ≠ some (.mapping input)) : Fails r test .noInput
  | noExpectation {input : List (String × Node)} (given : test.get? "input" = some (.mapping input))
      (missing : ∀ expected, ¬Expects test "allowed" (.bool expected)) :
      Fails r test .noExpectation
  | wrongVerdict {input : List (String × Node)} {expected : Bool}
      (given : test.get? "input" = some (.mapping input))
      (expects : Expects test "allowed" (.bool expected))
      (wrong : (r.decide (.mapping input)).isAllowed ≠ expected) :
      Fails r test (.wrongVerdict expected (r.decide (.mapping input)))
  | invalidPattern {input : List (String × Node)} {pattern : String} {refusal : Regex.Refusal}
      (given : test.get? "input" = some (.mapping input))
      (right : Expects test "allowed" (.bool (r.decide (.mapping input)).isAllowed))
      (asks : Expects test "reason" (.string pattern))
      (refused : Regex.compile pattern = .error refusal) :
      Fails r test (.invalidPattern refusal)
  | wrongReason {input : List (String × Node)} {pattern : String} {regex : Regex}
      (given : test.get? "input" = some (.mapping input))
      (right : Expects test "allowed" (.bool (r.decide (.mapping input)).isAllowed))
      (asks : Expects test "reason" (.string pattern))
      (compiled : Regex.compile pattern = .ok regex)
      (apart : ¬FitsReason pattern (r.decide (.mapping input)).reason) :
      Fails r test (.wrongReason (r.decide (.mapping input)).reason pattern)

end Rule

/-! ### What the checks look for -/

/-- The input of a test is the mapping under its key. -/
theorem testInput?_eq_some_iff (test input : Node) :
    testInput? test = some input ↔
      ∃ entries, input = .mapping entries ∧ test.get? "input" = some (.mapping entries) := by
  rw [testInput?, Option.filter_eq_some_iff]
  -- Of all values only a mapping is kept.
  cases input <;> simp [Node.entries?]

/-- What is expected is a value under a key of the expectations. -/
theorem bind_get?_eq_some_iff (test : Node) (key : String) (value : Node) :
    (test.get? "expect").bind (·.get? key) = some value ↔ Expects test key value :=
  Option.bind_eq_some_iff

/-- The verdict that a test expects is the truth value for it. -/
theorem expectedVerdict_eq_some_iff (test : Node) (expected : Bool) :
    ((test.get? "expect").bind (·.get? "allowed")).bind Node.asBool? = some expected ↔
      Expects test "allowed" (.bool expected) := by
  rw [Option.bind_eq_some_iff, ← bind_get?_eq_some_iff]
  simp only [Node.asBool?_eq_some_iff, exists_eq_right]

/-- The pattern that a test asks for is the text for it. -/
theorem expectedPattern_eq_some_iff (test : Node) (pattern : String) :
    ((test.get? "expect").bind (·.get? "reason")).bind Node.asString? = some pattern ↔
      Expects test "reason" (.string pattern) := by
  rw [Option.bind_eq_some_iff, ← bind_get?_eq_some_iff]
  simp only [Node.asString?_eq_some_iff, exists_eq_right]

/-- A pattern that compiles fits a reason exactly where it matches its text. -/
theorem fitsReason_iff {pattern : String} {regex : Regex}
    (compiled : Regex.compile pattern = .ok regex) (reason : Option Reason) :
    FitsReason pattern reason ↔ reason.any (regex.isMatch ·.text) = true := by
  rw [FitsReason, compiled, Option.any_eq_true]
  constructor
  · rintro ⟨_, given, same, there, fits⟩
    cases same
    exact ⟨given, there, fits⟩
  · rintro ⟨given, there, fits⟩
    exact ⟨regex, given, rfl, there, fits⟩

/-! ### Checks -/

namespace Rule

/-- The check of a test with a mapping for its input and an expected verdict. -/
theorem check_of_expects (r : Rule) {test : Node} {input : List (String × Node)} {expected : Bool}
    (given : test.get? "input" = some (.mapping input))
    (expects : Expects test "allowed" (.bool expected)) :
    r.check test =
      if (r.decide (.mapping input)).isAllowed = expected then
        match ((test.get? "expect").bind (·.get? "reason")).bind Node.asString? with
        | some pattern => checkReason (r.decide (.mapping input)).reason pattern
        | none => .ok ()
      else .error (.wrongVerdict expected (r.decide (.mapping input))) := by
  have found := (testInput?_eq_some_iff test _).mpr ⟨input, rfl, given⟩
  have stated := (expectedVerdict_eq_some_iff test expected).mpr expects
  unfold check
  -- The first two ways out are closed by what the test is known to have.
  split
  next missing => cases missing.symm.trans found
  next missing => cases missing.symm.trans stated
  next read there =>
    cases read.symm.trans found
    cases there.symm.trans stated
    rfl

/-- The check of a test that expects the verdict of the policy is that of the reason. -/
theorem check_of_right (r : Rule) {test : Node} {input : List (String × Node)} {pattern : String}
    (given : test.get? "input" = some (.mapping input))
    (right : Expects test "allowed" (.bool (r.decide (.mapping input)).isAllowed))
    (asks : Expects test "reason" (.string pattern)) :
    r.check test = checkReason (r.decide (.mapping input)).reason pattern := by
  rw [r.check_of_expects given right, if_pos rfl,
    (expectedPattern_eq_some_iff test pattern).mpr asks]

/-- A test that passes is found to do so. -/
theorem Passes.check_eq {r : Rule} {test : Node} (passes : r.Passes test) :
    r.check test = .ok () := by
  obtain ⟨input, given, right, reasons⟩ := passes
  -- Only where there is a pattern is the reason looked at.
  cases asked : ((test.get? "expect").bind (·.get? "reason")).bind Node.asString? with
  | none => rw [r.check_of_expects given right, if_pos rfl, asked]
  | some pattern =>
    have asks := (expectedPattern_eq_some_iff test pattern).mp asked
    -- The pattern of a test that passes compiles and matches the text of the reason.
    have fits := reasons pattern asks
    obtain ⟨regex, _, compiled, _⟩ := reasons pattern asks
    rw [r.check_of_right given right asks, checkReason, compiled]
    exact if_pos ((fitsReason_iff compiled _).mp fits)

/-- A test that fails is charged with what goes wrong first. -/
theorem Fails.check_eq {r : Rule} {test : Node} {failure : TestFailure}
    (fails : r.Fails test failure) : r.check test = .error failure := by
  -- The failures are in the order of the checks, so that those before each of them succeed.
  cases fails with
  | noInput missing =>
    have none : testInput? test = none := by
      rw [Option.eq_none_iff_forall_not_mem]
      intro input found
      obtain ⟨entries, _, given⟩ := (testInput?_eq_some_iff test input).mp found
      exact missing entries given
    rw [check, none]
  | noExpectation given missing =>
    have none : ((test.get? "expect").bind (·.get? "allowed")).bind Node.asBool? = none := by
      rw [Option.eq_none_iff_forall_not_mem]
      intro expected found
      exact missing expected ((expectedVerdict_eq_some_iff test expected).mp found)
    rw [check, (testInput?_eq_some_iff test _).mpr ⟨_, rfl, given⟩, none]
  | wrongVerdict given expects wrong => rw [r.check_of_expects given expects, if_neg wrong]
  | invalidPattern given right asks refused =>
    rw [r.check_of_right given right asks, checkReason, refused]
  | wrongReason given right asks compiled apart =>
    rw [r.check_of_right given right asks, checkReason, compiled]
    exact if_neg (mt (fitsReason_iff compiled _).mpr apart)

/-- Every test passes or fails. -/
theorem passes_or_fails (r : Rule) (test : Node) : r.Passes test ∨ ∃ f, r.Fails test f := by
  -- The parts of a test are asked for in the order in which they are checked.
  by_cases hasInput : ∃ input, test.get? "input" = some (.mapping input)
  · obtain ⟨input, given⟩ := hasInput
    by_cases hasVerdict : ∃ expected, Expects test "allowed" (.bool expected)
    · obtain ⟨expected, expects⟩ := hasVerdict
      by_cases right : (r.decide (.mapping input)).isAllowed = expected
      · subst right
        -- A text for the reason is the last thing that a test may ask for.
        by_cases reasons : ∀ pattern, Expects test "reason" (.string pattern) →
            FitsReason pattern (r.decide (.mapping input)).reason
        · exact .inl ⟨input, given, expects, reasons⟩
        · obtain ⟨pattern, unfit⟩ := Classical.not_forall.mp reasons
          obtain ⟨asks, apart⟩ := Classical.not_imp.mp unfit
          cases compiled : Regex.compile pattern with
          | error refusal => exact .inr ⟨_, .invalidPattern given expects asks compiled⟩
          | ok regex => exact .inr ⟨_, .wrongReason given expects asks compiled apart⟩
      · exact .inr ⟨_, .wrongVerdict given expects right⟩
    · exact .inr ⟨_, .noExpectation given fun expected expects => hasVerdict ⟨expected, expects⟩⟩
  · exact .inr ⟨_, .noInput fun input given => hasInput ⟨input, given⟩⟩

/-- The check of a test succeeds exactly where the test passes. -/
theorem check_eq_ok_iff (r : Rule) (test : Node) : r.check test = .ok () ↔ r.Passes test := by
  refine ⟨fun checked => ?_, Passes.check_eq⟩
  -- A check has one result, and a failing test would have given another one.
  rcases r.passes_or_fails test with passes | ⟨failure, fails⟩
  · exact passes
  · rw [fails.check_eq] at checked
    cases checked

/-- The check of a test fails exactly with what goes wrong first in it. -/
theorem check_eq_error_iff (r : Rule) (test : Node) (failure : TestFailure) :
    r.check test = .error failure ↔ r.Fails test failure := by
  refine ⟨fun checked => ?_, Fails.check_eq⟩
  rcases r.passes_or_fails test with passes | ⟨other, fails⟩
  · rw [passes.check_eq] at checked
    cases checked
  · rw [fails.check_eq] at checked
    cases checked
    exact fails

/-- An outcome has the message of what goes wrong in its test. -/
theorem message_outcome_eq_some_iff (r : Rule) (index : Nat) (test : Node) (message : String) :
    (r.outcome index test).message = some message ↔
      ∃ failure, r.Fails test failure ∧ failure.message = message := by
  simp only [← check_eq_error_iff]
  unfold outcome
  cases r.check test with
  | ok done => simp
  | error failure => simp

/-! ### Runs -/

/-- A policy has one outcome for each of its tests. -/
theorem length_runTests (r : Rule) : r.runTests.length = r.tests.length := by
  rw [runTests, List.length_map, List.length_zipIdx]

/-- The outcomes of a policy stand in the order of its tests. -/
theorem getElem?_runTests (r : Rule) (index : Nat) :
    r.runTests[index]? = r.tests[index]?.map (r.outcome index) := by
  rw [runTests, List.getElem?_map, List.getElem?_zipIdx, Option.map_map]
  simp [Function.comp_def]

end Rule

/-- The outcomes of policies are those of the first and then those of the others. -/
theorem runTests_cons (r : Rule) (rest : List Rule) :
    runTests (r :: rest) = r.runTests ++ runTests rest := List.flatMap_cons

/-- There are as many outcomes as tests. -/
theorem length_runTests (policies : List Rule) :
    (runTests policies).length = (policies.flatMap (·.tests)).length := by
  induction policies with
  | nil => rfl
  | cons r rest ih =>
    rw [runTests_cons, List.length_append, r.length_runTests, ih, List.flatMap_cons,
      List.length_append]

/-- The outcomes of a policy stand behind those of the policies before it. -/
theorem getElem?_runTests_append (before : List Rule) (r : Rule) (after : List Rule) {index : Nat}
    {test : Node} (found : r.tests[index]? = some test) :
    (runTests (before ++ r :: after))[(before.flatMap (·.tests)).length + index]? =
      some (r.outcome index test) := by
  have inside : index < r.runTests.length := by
    rw [r.length_runTests]
    exact (List.getElem?_eq_some_iff.mp found).1
  -- The outcomes of the rules before it come first, one for each of their tests.
  have parts : runTests (before ++ r :: after) =
      runTests before ++ (r.runTests ++ runTests after) := by
    rw [← runTests_cons]
    exact List.flatMap_append
  rw [parts, ← length_runTests, List.getElem?_append_right (Nat.le_add_right _ _),
    Nat.add_sub_cancel_left, List.getElem?_append_left inside, r.getElem?_runTests, found]
  rfl

/--
A document has one outcome for each test, by policies and then by tests, and these are the outcomes
of its policies one by one.

An outcome depends on nothing but its policy and its test. It is a pass where it has no message,
which is exactly where the policy decides as the test expects, and any message is that of what goes
wrong first.
-/
theorem runTests_exact (d : PolicyDocument) :
    (runTests d.policies).length = (d.policies.flatMap (·.tests)).length ∧
    (∀ before r after index test, d.policies = before ++ r :: after →
      r.tests[index]? = some test →
      (runTests d.policies)[(before.flatMap (·.tests)).length + index]? =
        some (r.outcome index test)) ∧
    runTests d.policies =
      d.policies.flatMap (fun r => runTests ({ d with policies := [r] } : PolicyDocument).policies) ∧
    ∀ (r : Rule) (index : Nat) (test : Node),
      (r.outcome index test).policyId = r.id ∧
      (∀ tests, ({ r with tests := tests } : Rule).outcome index test = r.outcome index test) ∧
      ((r.outcome index test).isPassed = true ↔ (r.outcome index test).message = none) ∧
      ((r.outcome index test).isPassed = true ↔ r.Passes test) ∧
      ∀ message, (r.outcome index test).message = some message ↔
        ∃ failure, r.Fails test failure ∧ failure.message = message := by
  refine ⟨length_runTests d.policies, ?_, ?_, fun r index test => ⟨rfl, fun _ => rfl, ?_, ?_, ?_⟩⟩
  · rintro before r after index test parts found
    rw [parts]
    exact getElem?_runTests_append before r after found
  · simp only [runTests, List.flatMap_cons, List.flatMap_nil, List.append_nil]
  · exact Option.isNone_iff_eq_none
  · rw [r.isPassed_outcome_iff, r.check_eq_ok_iff]
  · exact r.message_outcome_eq_some_iff index test

/-- A policy that asks for an approval, with a test of its reason and one without an input. -/
def sendingRule : Rule where
  id := "sending"
  description := none
  tools := [.string "email.*"]
  payload := .mapping [("require", .string "approval")]
  tests := [
    .mapping [("input", .mapping [("tool", .string "email.send")]),
      ("expect", .mapping [("allowed", .bool false), ("reason", .string "^APPROVAL")])],
    .mapping [("expect", .mapping [("allowed", .bool true)])]]

/-- A document with another policy, of a single test, in front of the sending one. -/
def sendingDocument : PolicyDocument :=
  ⟨1, none, [{ sendingRule with tests := [.null] }, sendingRule]⟩

/-- Behind the outcome of the policy before it, the first test of the sending policy passes, and the
second one fails for want of an input. -/
theorem sendingDocument_outcomes :
    ∃ first second,
      (runTests sendingDocument.policies)[1]? = some (sendingRule.outcome 0 first) ∧
      (runTests sendingDocument.policies)[2]? = some (sendingRule.outcome 1 second) ∧
      sendingRule.Passes first ∧ sendingRule.Fails second .noInput := by
  obtain ⟨_, places, _, outcomes⟩ := runTests_exact sendingDocument
  obtain ⟨_, _, _, passes, _⟩ := outcomes sendingRule 0 (sendingRule.tests.getD 0 .null)
  exact ⟨_, _, places [{ sendingRule with tests := [.null] }] sendingRule [] 0 _ rfl rfl,
    places [{ sendingRule with tests := [.null] }] sendingRule [] 1 _ rfl rfl,
    passes.mp (by decide), .noInput (by simp [Node.get?, List.lookup_cons])⟩

end ToolPolicy
