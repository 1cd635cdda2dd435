import ToolPolicy.Policy.Document
import ToolPolicy.Proofs.Policy.Shape

/-! Trees of typed documents: what stands under their keys, and how they are judged. -/

namespace ToolPolicy

namespace Rule

/-- The tree of a rule holds its identifier. -/
@[simp] theorem get?_id_toNode (r : Rule) : r.toNode.get? "id" = some (.string r.id) := by
  simp [toNode, Node.get?]

/-- The tree of a rule holds its tools, and nothing else, in a scope. -/
@[simp] theorem get?_scope_toNode (r : Rule) :
    r.toNode.get? "applies_to" = some (.mapping [("tools", .sequence r.tools)]) := by
  -- A description may stand before the scope, but under a key of its own.
  cases described : r.description <;> simp [toNode, Node.get?, described, List.lookup_cons]

/-- The tree of a rule holds its payload. -/
@[simp] theorem get?_rule_toNode (r : Rule) : r.toNode.get? "rule" = some r.payload := by
  -- The payload comes after the scope, whether or not there is a description.
  cases described : r.description <;> simp [toNode, Node.get?, described, List.lookup_cons]

/-- The tree of a rule names the tools of the rule, if there are any. -/
theorem namesTools_toNode (r : Rule) : NamesTools r.toNode ↔ r.tools ≠ [] := by
  unfold NamesTools
  rw [get?_scope_toNode]
  -- The scope of a written rule is known, so that only the list of its tools can be empty.
  constructor
  · rintro ⟨scope, tool, rest, applied, named⟩ empty
    cases applied
    simp [empty] at named
  · intro filled
    obtain ⟨tool, rest, tools⟩ := List.exists_cons_of_ne_nil filled
    exact ⟨_, tool, rest, rfl, by simp [tools]⟩

/-- The tree of a rule with an identifier and a payload can only be short of tools. -/
theorem policyViolation?_toNode {r : Rule} (named : r.id ≠ "")
    (ruled : r.payload.isPresent = true) :
    policyViolation? r.toNode = if r.tools = [] then some (.missingTools r.id) else none := by
  -- An identifier counts as present as soon as it is not empty.
  have present : (Node.string r.id).isPresent = true := by simpa [Node.isPresent] using named
  have holdsRule : r.toNode.Holds "rule" := ⟨r.payload, r.get?_rule_toNode, ruled⟩
  split
  -- Everything before the tools is in place, so that their absence is the first violation.
  · rename_i empty
    have missing : ¬NamesTools r.toNode := fun tooled => r.namesTools_toNode.mp tooled empty
    exact (BreaksPolicy.tools r.get?_id_toNode present holdsRule missing).policyViolation?
  · rename_i filled
    have shaped : IsPolicy r.toNode :=
      ⟨⟨_, rfl⟩, ⟨_, r.get?_id_toNode, present⟩, holdsRule, r.namesTools_toNode.mpr filled⟩
    exact shaped.policyViolation?

end Rule

/-- The tree of a document can only be at fault in its policies. -/
theorem PolicyDocument.documentViolation?_toNode {d : PolicyDocument} (versioned : d.version = 1) :
    documentViolation? d.toNode = (d.policies.map Rule.toNode).findSome? policyViolation? := by
  have version : d.toNode.get? "version" = some (.int 1) := by
    simp [toNode, Node.get?, versioned]
  -- The policies stand behind the project, if there is one.
  have policies : d.toNode.get? "policies" = some (.sequence (d.policies.map Rule.toNode)) := by
    cases named : d.project <;> simp [toNode, Node.get?, named, List.lookup_cons]
  -- With the version and the list of policies in place, only the policies are left to judge.
  rw [documentViolation?, version, policies]
  rfl

end ToolPolicy
