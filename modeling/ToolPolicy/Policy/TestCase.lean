import ToolPolicy.Policy.Decision
import ToolPolicy.Regex.Basic
import ToolPolicy.Text.Quoted

/-! The tests that policies carry for themselves. -/

namespace ToolPolicy

/-- How a test went: it passed, or there is a message. -/
structure TestOutcome where
  policyId : String
  name : String
  message : Option String
deriving DecidableEq, Repr

namespace TestOutcome

def isPassed (o : TestOutcome) : Bool := o.message.isNone

end TestOutcome

/-- Why a test did not pass. -/
inductive TestFailure where
  | noInput
  | noExpectation
  | wrongVerdict (expected : Bool) (d : Decision)
  | invalidPattern (refusal : Regex.Refusal)
  | wrongReason (reason : Option Reason) (pattern : String)
deriving DecidableEq, Repr

namespace TestFailure

def boolText (b : Bool) : String := if b then "true" else "false"

def message : TestFailure → String
  | noInput => "test case has no input mapping"
  | noExpectation => "test case has no boolean expect.allowed"
  | wrongVerdict expected d =>
    "expected allowed=" ++ boolText expected ++ ", got allowed=" ++ boolText d.isAllowed ++ " (" ++
      (d.reason.map Reason.text).getD "no reason" ++ ")"
  | invalidPattern refusal => "invalid expect.reason pattern: " ++ refusal.message
  | wrongReason reason pattern =>
    "reason " ++ Quoted.text ((reason.map Reason.text).getD "") ++ " does not match /" ++ pattern ++
      "/i"

end TestFailure

/-- The name of a test, or its index where it has none. -/
def testName (index : Nat) (test : Node) : String :=
  match test.getPresent? "name" with
  | some name => name.text
  | none => "#" ++ Digits.nat index

/-- The input of a test. -/
def testInput? (test : Node) : Option Node := (test.get? "input").filter (·.entries?.isSome)

/-- Whether a reason is as a pattern says. Without a reason no pattern matches. -/
def checkReason (reason : Option Reason) (pattern : String) : Except TestFailure Unit :=
  match Regex.compile pattern with
  | .error refusal => .error (.invalidPattern refusal)
  | .ok regex =>
    if reason.any (regex.isMatch ·.text) then .ok () else .error (.wrongReason reason pattern)

namespace Rule

/-- Runs a test: its verdict first, and then its reason where it names one. -/
def check (r : Rule) (test : Node) : Except TestFailure Unit :=
  match testInput? test, ((test.get? "expect").bind (·.get? "allowed")).bind Node.asBool? with
  -- The input is asked for first: without it nothing can be decided.
  | none, _ => .error .noInput
  | some _, none => .error .noExpectation
  | some input, some expected =>
    let d := r.decide input
    if d.isAllowed = expected then
      -- The reason is looked at only once the verdict is the expected one.
      match ((test.get? "expect").bind (·.get? "reason")).bind Node.asString? with
      | some pattern => checkReason d.reason pattern
      | none => .ok ()
    else .error (.wrongVerdict expected d)

/-- The outcome of the test with an index. -/
def outcome (r : Rule) (index : Nat) (test : Node) : TestOutcome where
  policyId := r.id
  name := testName index test
  message := match r.check test with
    | .ok () => none
    | .error failure => some failure.message

/-- The outcomes of the tests of a policy, each of which runs against that policy alone. -/
def runTests (r : Rule) : List TestOutcome :=
  r.tests.zipIdx.map fun (test, index) => r.outcome index test

end Rule

/-- The outcomes of the tests of all policies. -/
def runTests (policies : List Rule) : List TestOutcome := policies.flatMap Rule.runTests

end ToolPolicy
