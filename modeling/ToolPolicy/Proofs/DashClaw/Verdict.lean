import ToolPolicy.DashClaw.Conversion
import ToolPolicy.Policy.Decision

/-! What converted rules say of a call: some ask for an approval, and all others block. -/

namespace ToolPolicy.DashClaw

/-- Whether the rule for a type of records asks for an approval. -/
def asksApproval (policyType : String) : Bool :=
  policyType == "require_approval" || policyType == "webhook_check"

/-- The entry of a rule that decides on calls. -/
def effect (policyType : String) : String × Node :=
  if asksApproval policyType then ("require", .string "approval") else ("block", .bool true)

/-- A rule begins with the entry that decides, and the keys of all others have an underscore. -/
theorem payload_eq (policyType : String) (s : Node) :
    ∃ kept : List (String × Node), payload policyType s = .mapping (effect policyType :: kept) ∧
      ∀ entry ∈ kept, entry.1.toList.head? = some '_' := by
  unfold payload
  dsimp only
  split
  case h_5 =>
    -- A webhook keeps its address only if one is given.
    refine ⟨_, rfl, ?_⟩
    cases s.getPresent? "url" <;> simp
  case h_8 approval _ _ _ webhook _ _ =>
    -- A type without a rule of its own is none of those that ask for an approval.
    have silent : asksApproval policyType = false := by
      rw [asksApproval, Bool.or_eq_false_iff, beq_eq_false_iff_ne, beq_eq_false_iff_ne]
      exact ⟨approval, webhook⟩
    rw [effect, silent]
    exact ⟨_, rfl, by simp⟩
  all_goals exact ⟨_, rfl, by simp⟩

/-- Under a key without an underscore, a rule holds at most the entry that decides. -/
theorem get?_payload {key : String} (plain : key.toList.head? ≠ some '_') (policyType : String)
    (s : Node) : (payload policyType s).get? key = [effect policyType].lookup key := by
  obtain ⟨kept, made, underscored⟩ := payload_eq policyType s
  -- The other entries begin with an underscore, so that the key is none of theirs.
  have absent : kept.lookup key = none := by
    rw [List.lookup_eq_none_iff]
    intro entry member
    have differs : key ≠ entry.1 := by
      rintro rfl
      exact plain (underscored entry member)
    simpa using differs
  rw [made, Node.get?, List.lookup_cons, absent]
  rfl

/-- A converted rule needs an approval if its type asks for one, and it blocks otherwise. -/
theorem verdict_payload {rule : Rule} {policyType : String} {s : Node}
    (made : rule.payload = payload policyType s) (input : Node) :
    rule.verdict input =
      if asksApproval policyType then
        if isApproved input then (true, some .approved) else (false, some .approvalRequired)
      else (false, some .blocked) := by
  have block : rule.payload.get? "block" = [effect policyType].lookup "block" := by
    rw [made, get?_payload (by decide)]
  have require : rule.payload.get? "require" = [effect policyType].lookup "require" := by
    rw [made, get?_payload (by decide)]
  -- No type of records yields a list of exceptions from a block.
  have allowlist : rule.payload.get? "allowlist" = [effect policyType].lookup "allowlist" := by
    rw [made, get?_payload (by decide)]
  unfold Rule.verdict Rule.isAllowlisted Rule.requiresApproval Node.hasTrue
  rw [block, require, allowlist, effect]
  -- A rule has one entry that decides, so that either the block or the requirement is there.
  cases asksApproval policyType with
  | true => rfl
  | false => rfl

end ToolPolicy.DashClaw
