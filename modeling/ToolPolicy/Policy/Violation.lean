/-! What a policy document violates. -/

namespace ToolPolicy

/-- A violation of the shape of policy documents. -/
inductive Violation where
  /-- The document is missing or empty, or its version is not one. -/
  | invalidVersion
  /-- The policies are missing or not a sequence. -/
  | invalidPoliciesType
  /-- A policy has no identifier. -/
  | missingId
  /-- A policy has no rule. -/
  | missingRule (id : String)
  /-- A policy applies to no tools. -/
  | missingTools (id : String)
deriving DecidableEq, Repr

namespace Violation

def message : Violation → String
  | invalidVersion => "policy.version must be 1"
  | invalidPoliciesType => "policy.policies must be a list"
  | missingId => "policy missing id"
  | missingRule id => "policy " ++ id ++ " missing rule"
  | missingTools id => "policy " ++ id ++ " applies_to.tools required"

/-- The name of the kind of a violation in reports. -/
def kind : Violation → String
  | invalidVersion => "invalid_version"
  | invalidPoliciesType => "invalid_policies_type"
  | missingId => "missing_id"
  | missingRule _ => "missing_rule"
  | missingTools _ => "missing_tools"

/-- The policy that violates, where it has an identifier. -/
def policyId? : Violation → Option String
  | missingRule id | missingTools id => some id
  | _ => none

end Violation

end ToolPolicy
