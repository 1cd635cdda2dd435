import ToolPolicy.Proofs.DashClaw.Conversion
import ToolPolicy.Proofs.DashClaw.Verdict
import ToolPolicy.Proofs.Policy.Decision
import ToolPolicy.Proofs.Policy.TestCase

/-! When the placeholder tests of converted records pass: the first action type must match. -/

namespace ToolPolicy.DashClaw

/-! ### Generated tests -/

/-- The call that a generated test makes. -/
def callInput (tool : Node) (approval : Option Bool) : Node :=
  .mapping (
    [("tool", tool), ("args", .mapping [])] ++
      (approval.map fun b => ("approval", Node.bool b)).toList)

/-- The tool of a call is the one of its test. -/
@[simp] theorem toolOf_callInput (tool : Node) (approval : Option Bool) :
    toolOf (callInput tool approval) = tool.text := rfl

/-- A call is approved only where its test says so. -/
@[simp] theorem isApproved_callInput (tool : Node) (approval : Option Bool) :
    isApproved (callInput tool approval) = (approval == some true) := by
  rcases approval with _ | _ | _ <;> rfl

/-- A generated test passes where its call is decided as it expects. -/
theorem check_testCase_iff (rule : Rule) (name : String) (tool : Node) (approval : Option Bool)
    (isAllowed : Bool) :
    rule.check (testCase name tool approval isAllowed) = .ok () ↔
      (rule.decide (callInput tool approval)).isAllowed = isAllowed := by
  have input : testInput? (testCase name tool approval isAllowed) =
      some (callInput tool approval) := rfl
  have allowed : (((testCase name tool approval isAllowed).get? "expect").bind
      (·.get? "allowed")).bind Node.asBool? = some isAllowed := rfl
  -- A generated test expects no reason.
  have reason : (((testCase name tool approval isAllowed).get? "expect").bind
      (·.get? "reason")).bind Node.asString? = none := rfl
  unfold Rule.check
  rw [input, allowed, reason]
  dsimp only
  split <;> simp [*]

/-- A call of a converted rule is allowed if the rule does not apply, or if it asks for an approval
that is there. -/
theorem isAllowed_decide {rule : Rule} {policyType : String} {s : Node}
    (made : rule.payload = payload policyType s) (input : Node) :
    (rule.decide input).isAllowed =
      (!rule.applies (toolOf input) || (asksApproval policyType && isApproved input)) := by
  -- A converted rule has no other way to allow a call than an approval.
  unfold Rule.decide
  rw [verdict_payload made]
  cases rule.applies (toolOf input) <;> cases asksApproval policyType <;>
    cases isApproved input <;> rfl

/-! ### The tool that is called -/

/-- The tool that the placeholders of a type of records call where no action type is given. -/
def defaultTool (policyType : String) : String :=
  match policyType with
  | "require_approval" => "external_send"
  | "block_action_type" => "destructive"
  | _ => "example_tool"

/-- The tool that placeholders call, where the given action types are those that count. -/
def calledTool (policyType : String) (counted : Option (List Node)) : Node :=
  (counted.bind List.head?).getD (.string (defaultTool policyType))

/-- The placeholders of a converted record pass where its rule applies to the tool they call. -/
theorem placeholderTests_pass_iff {rule : Rule} {policyType : String} {s : Node}
    (made : rule.payload = payload policyType s) (actions : Option (List Node)) :
    (∀ test ∈ placeholderTests policyType actions, rule.check test = .ok ()) ↔
      rule.applies (calledTool policyType
        (if isAboutActions policyType then actions else none)).text = true := by
  have decision := isAllowed_decide made
  unfold placeholderTests
  dsimp only
  split
  · -- The refused call is denied and the approved one allowed, as soon as the rule applies.
    simp [check_testCase_iff, decision, asksApproval, isAboutActions, calledTool, defaultTool]
  · simp [check_testCase_iff, decision, asksApproval, isAboutActions, calledTool, defaultTool]
  · -- For all other types the action types do not count, and the tool is the one of the example.
    rename_i other another
    have silent : isAboutActions policyType = false := by
      rw [isAboutActions, Bool.or_eq_false_iff, beq_eq_false_iff_ne, beq_eq_false_iff_ne]
      exact ⟨other, another⟩
    simp [check_testCase_iff, decision, silent, calledTool, defaultTool]

/-- A star applies to the tool that placeholders call by default. -/
theorem applies_defaultTool {rule : Rule} (anyTool : .string "*" ∈ rule.tools)
    (policyType : String) : rule.applies (defaultTool policyType) = true := by
  -- A star fits every text without a line feed.
  have oneLine : '\n' ∉ (defaultTool policyType).toList := by
    unfold defaultTool
    split <;> decide
  exact (rule.applies_iff _).mpr ⟨"*", anyTool, by decide, Glob.spells_star oneLine⟩

/-! ### Records whose placeholders pass -/

/-- A record that comes with a list of tests. -/
def Record.HasTests (r : Record) : Prop := ∃ tests, r.Gives "tests" (.sequence tests)

/-- Where a record gives action types, a text among them fits the first one. -/
def Record.MatchesFirst (r : Record) : Prop :=
  ∀ actions, r.Gives "action_types" (.sequence actions) →
    ∃ first pattern, actions.head? = some first ∧ .string pattern ∈ actions ∧
      Glob.Fits pattern first.text

/-- The first action type is looked for in the list that a record gives. -/
theorem Record.matchesFirst_iff {r : Record} {actions : List Node}
    (given : r.Gives "action_types" (.sequence actions)) :
    r.MatchesFirst ↔
      ∃ first pattern, actions.head? = some first ∧ .string pattern ∈ actions ∧
        Glob.Fits pattern first.text := by
  obtain ⟨s, read, held⟩ := given
  constructor
  · intro matching
    exact matching actions ⟨s, read, held⟩
  · -- No record gives two lists of action types.
    intro matching others again
    cases held.symm.trans ((gives_iff read _ _).mp again)
    exact matching

/-- A first action type that is a text fits itself, unless it is too heavy. -/
theorem Record.matchesFirst_of_text {r : Record} {pattern : String} {rest : List Node}
    (given : r.Gives "action_types" (.sequence (.string pattern :: rest)))
    (light : Glob.hasStar pattern.toList = true → Glob.weight pattern.toList ≤ Glob.maxWeight) :
    r.MatchesFirst := by
  have fits : Glob.Fits pattern (Node.string pattern).text := by
    rw [Node.text_string]
    exact ⟨light, Glob.spells_self _⟩
  exact (matchesFirst_iff given).mpr ⟨_, pattern, rfl, List.mem_cons_self, fits⟩

/-- The settings of a record without tests hold no list of tests. -/
theorem items?_tests_eq_none {r : Record} {s : Node} (read : settings r = .ok s)
    (untested : ¬r.HasTests) : (s.get? "tests").bind Node.items? = none := by
  -- What is there under the key is looked at as a list.
  rw [Option.bind_eq_none_iff]
  intro value held
  -- Any other value under the key is passed over.
  cases value with
  | sequence tests => exact absurd ⟨tests, s, read, held⟩ untested
  | _ => rfl

/-- A converted rule applies to the tool that its placeholders call where the first action type is
matched, as far as action types have a meaning for the record. -/
theorem applies_calledTool_iff {r : Record} {s : Node} {actions : Option (List Node)} {rule : Rule}
    (read : settings r = .ok s) (listed : actionTypes s = .ok actions)
    (tools : rule.tools =
      (if isAboutActions r.policyType then actions else none).getD [.string "*"]) :
    rule.applies (calledTool r.policyType
        (if isAboutActions r.policyType then actions else none)).text = true ↔
      (isAboutActions r.policyType = true → r.MatchesFirst) := by
  cases about : isAboutActions r.policyType with
  | false =>
    -- The star stands for every tool, and so for the one that is called by default.
    rw [about] at tools
    simpa [calledTool] using applies_defaultTool (by simp [tools]) r.policyType
  | true =>
    rw [about] at tools
    cases actions with
    | none =>
      -- Without action types there is nothing that could fail to match.
      have vacuous : r.MatchesFirst := by
        intro others given
        have held := (Record.gives_iff read _ _).mp given
        rw [(actionTypes_eq_some_iff s others).mpr held] at listed
        cases listed
      simpa [calledTool, vacuous] using applies_defaultTool (by simp [tools]) r.policyType
    | some actions =>
      have given : r.Gives "action_types" (.sequence actions) :=
        ⟨s, read, (actionTypes_eq_some_iff s actions).mp listed⟩
      have same : rule.tools = actions := tools
      simp only [if_true, true_imp_iff, Record.matchesFirst_iff given, Rule.applies_iff, same]
      -- The placeholders call the first of the tools; from an empty list nothing matches.
      cases actions with
      | nil => simp
      | cons first rest => simp [calledTool]

/-- The rule of a record without tests passes its placeholders where the first action type is
matched, as far as action types have a meaning for the record. -/
theorem tests_pass_iff {r : Record} {rule : Rule} (untested : ¬r.HasTests)
    (converted : convertRecord r = .ok rule) :
    (∀ test ∈ rule.tests, rule.check test = .ok ()) ↔
      (isAboutActions r.policyType = true → r.MatchesFirst) := by
  obtain ⟨s, id, actions, read, _, listed, made⟩ := (convertRecord_eq_ok_iff r rule).mp converted
  -- Without a list of its own the tests are the generated ones.
  have own : rule.tests = placeholderTests r.policyType actions := by
    rw [made, items?_tests_eq_none read untested]
    rfl
  have body : rule.payload = payload r.policyType s := by rw [made]
  rw [own, placeholderTests_pass_iff body]
  exact applies_calledTool_iff read listed (by rw [made])

/--
The placeholder tests of a converted document pass exactly where each first action type matches.

It has to be matched, as a display text, by some text among the action types of the same record.
-/
theorem placeholders_pass_iff {records : List Record} {project : String}
    {document : PolicyDocument} (untested : ∀ r ∈ records, ¬r.HasTests)
    (converted : convertPolicies records project = .ok document) :
    (∀ o ∈ runTests document.policies, o.isPassed = true) ↔
      ∀ r ∈ records, r.isInactive = false →
        (r.policyType = "require_approval" ∨ r.policyType = "block_action_type") →
          r.MatchesFirst := by
  obtain ⟨rules, made, rfl⟩ := (convertPolicies_eq_ok_iff records project document).mp converted
  rw [runTests_passed_iff]
  -- The rules and the records that are on stand for one another.
  constructor
  · intro passed r member isOn about
    obtain ⟨rule, among, here⟩ := exists_rule_of_mem made member isOn
    exact (tests_pass_iff (untested r member) here).mp (passed rule among)
      ((isAboutActions_iff _).mpr about)
  · intro matching rule among
    obtain ⟨r, member, isOn, here⟩ := exists_record_of_mem made among
    refine (tests_pass_iff (untested r member) here).mpr fun about => ?_
    exact matching r member isOn ((isAboutActions_iff _).mp about)

/-- A record with a pattern among its action types, and one with a single action type. -/
def textActions : List Record := [
  { id := some (.string "sends"), name := none, policyType := "require_approval",
    rules := some (.object [("action_types", .array [.string "email.*", .string "message.send"])]),
    active := none },
  { id := some (.string "deletes"), name := none, policyType := "block_action_type",
    rules := some (.object [("action_types", .array [.string "file.delete"])]), active := none }]

/-- Action types that are texts have placeholder tests that pass. -/
theorem textActions_pass :
    ∃ document, convertPolicies textActions "demo" = .ok document ∧
      ∀ o ∈ runTests document.policies, o.isPassed = true := by
  obtain ⟨document, converted⟩ :
      ∃ document, convertPolicies textActions "demo" = .ok document := ⟨_, rfl⟩
  have untested : ∀ r ∈ textActions, ¬r.HasTests := by
    simp only [textActions, List.forall_mem_cons]
    refine ⟨?_, ?_, by simp⟩
    · rintro ⟨tests, s, read, held⟩
      cases read
      cases held
    · rintro ⟨tests, s, read, held⟩
      cases read
      cases held
  refine ⟨document, converted, (placeholders_pass_iff untested converted).mpr ?_⟩
  simp only [textActions, List.forall_mem_cons]
  refine ⟨fun _ _ => ?_, fun _ _ => ?_, by simp⟩
  -- A first action type that is a text fits itself.
  · exact Record.matchesFirst_of_text ⟨_, rfl, rfl⟩ (by decide)
  · exact Record.matchesFirst_of_text ⟨_, rfl, rfl⟩ (by decide)

/-- A record whose only action type is a number. -/
def numericAction : Record where
  id := some (.string "a")
  name := none
  policyType := "block_action_type"
  rules := some (.object [("action_types", .array [.number (.integer 5)])])
  active := none

/-- A number is no pattern, so that the rule does not apply to the call of its own placeholder. -/
theorem numericAction_fails :
    ¬numericAction.HasTests ∧
      (∀ actions, numericAction.Gives "action_types" (.sequence actions) → actions ≠ []) ∧
      ∃ document, convertPolicies [numericAction] defaultProject = .ok document ∧
        ∃ o ∈ runTests document.policies, o.isPassed = false := by
  refine ⟨?_, ?_, _, rfl, _, List.mem_cons_self, rfl⟩
  · rintro ⟨tests, s, read, held⟩
    cases read
    cases held
  -- The list of the record has one item.
  · rintro actions ⟨s, read, held⟩
    cases read
    cases held
    decide

end ToolPolicy.DashClaw
