import ToolPolicy.Node.Text
import ToolPolicy.Policy.Document
import ToolPolicy.Policy.Glob

/-! Whether a call of a tool would be allowed.

An input is a mapping with the name of the tool, and with an approval where there is one. A policy
applies to the tools that its patterns match. -/

namespace ToolPolicy

/-- Why a decision was made. -/
inductive Reason where
  | notApplicable
  | allowlisted
  | blocked
  | approvalRequired
  | approved
  | allPassed
deriving DecidableEq, Repr

def Reason.text : Reason → String
  | notApplicable => "policy does not apply"
  | allowlisted => "allowlisted"
  | blocked => "blocked by policy"
  | approvalRequired => "approval required"
  | approved => "approved"
  | allPassed => "all policies passed"

/-- A verdict on an input. A rule that says nothing allows without a reason. -/
structure Decision where
  isAllowed : Bool
  reason : Option Reason
  policyId : Option String
deriving DecidableEq, Repr

/-- The name of the tool of an input. -/
def toolOf (input : Node) : String := Node.textOr (input.get? "tool")

/-- Whether an entry of the tools of a policy matches; only texts are patterns. -/
def toolMatches (pattern : Node) (tool : String) : Bool :=
  match pattern with
  | .string p => Glob.accepts p tool
  | _ => false

/-- Whether a value under a key is `true`. -/
def Node.hasTrue (n : Node) (key : String) : Bool := (n.get? key).any Node.isTrue

/-- Whether an input comes with an approval. -/
def isApproved (input : Node) : Bool :=
  input.hasTrue "approval" || (input.get? "context").any (·.hasTrue "approved")

namespace Rule

/-- Whether a policy applies to a tool. -/
def applies (r : Rule) (tool : String) : Bool := r.tools.any (toolMatches · tool)

/-- Whether a tool is on the list of exceptions from a block. -/
def isAllowlisted (r : Rule) (tool : String) : Bool :=
  ((r.payload.get? "allowlist").bind Node.items?).any
    (·.any fun entry => entry.asString? == some tool)

/-- Whether a policy asks for an approval. -/
def requiresApproval (r : Rule) : Bool :=
  (r.payload.get? "require").bind Node.asString? == some "approval"

/-- What a policy says of an input to which it applies: a block comes before an approval. -/
def verdict (r : Rule) (input : Node) : Bool × Option Reason :=
  if r.payload.hasTrue "block" then
    -- The list of exceptions counts for blocks only, and there no approval helps.
    if r.isAllowlisted (toolOf input) then (true, some .allowlisted) else (false, some .blocked)
  else if r.requiresApproval then
    if isApproved input then (true, some .approved) else (false, some .approvalRequired)
  else (true, none)

/-- The decision of a policy on an input. -/
def decide (r : Rule) (input : Node) : Decision :=
  let (isAllowed, reason) :=
    -- The identifier is named even where the policy does not apply.
    if r.applies (toolOf input) then r.verdict input else (true, some .notApplicable)
  ⟨isAllowed, reason, some r.id⟩

end Rule

/-- The decision of policies together: the first denial, if there is one. -/
def decideAll (policies : List Rule) (input : Node) : Decision :=
  ((policies.map (·.decide input)).find? (!·.isAllowed)).getD ⟨true, some .allPassed, none⟩

end ToolPolicy
