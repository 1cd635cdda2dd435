import ToolPolicy.Proofs.Policy.Approval

/-! When a policy denies an input, and which reason it gives in each case. -/

namespace ToolPolicy.Rule

/-- One of the tools of a policy matches. -/
def AppliesTo (r : Rule) (tool : String) : Prop := ∃ entry ∈ r.tools, toolMatches entry tool = true

/-- A policy blocks by the value `true`, and by no other value. -/
def Blocks (r : Rule) : Prop := r.payload.get? "block" = some (.bool true)

/-- A policy excepts the tools whose names stand in its list of exceptions as texts. -/
def Excepts (r : Rule) (tool : String) : Prop :=
  ∃ exceptions, r.payload.get? "allowlist" = some (.sequence exceptions) ∧
    .string tool ∈ exceptions

/-- A policy asks for an approval by that word. -/
def AsksApproval (r : Rule) : Prop := r.payload.get? "require" = some (.string "approval")

/--
What a policy says of an input.

Only a policy that applies to the tool says anything. A block comes before an approval, and each of
the two is a denial unless it is lifted.
-/
inductive Judges (r : Rule) (input : Node) : Bool → Option Reason → Prop
  | notApplicable (apart : ¬r.AppliesTo (toolOf input)) :
      Judges r input true (some .notApplicable)
  | allowlisted (applies : r.AppliesTo (toolOf input)) (blocks : r.Blocks)
      (excepted : r.Excepts (toolOf input)) : Judges r input true (some .allowlisted)
  | blocked (applies : r.AppliesTo (toolOf input)) (blocks : r.Blocks)
      (unexcepted : ¬r.Excepts (toolOf input)) : Judges r input false (some .blocked)
  | approved (applies : r.AppliesTo (toolOf input)) (unblocked : ¬r.Blocks) (asks : r.AsksApproval)
      (approval : HasApproval input) : Judges r input true (some .approved)
  | approvalRequired (applies : r.AppliesTo (toolOf input)) (unblocked : ¬r.Blocks)
      (asks : r.AsksApproval) (unapproved : ¬HasApproval input) :
      Judges r input false (some .approvalRequired)
  | silent (applies : r.AppliesTo (toolOf input)) (unblocked : ¬r.Blocks)
      (unasked : ¬r.AsksApproval) : Judges r input true none

/-! ### What the checks look for -/

/-- A policy is found to apply where one of its tools matches. -/
theorem applies_iff_appliesTo (r : Rule) (tool : String) :
    r.applies tool = true ↔ r.AppliesTo tool := List.any_eq_true

/-- A policy is found to block where it does so by the value `true`. -/
theorem hasTrue_block_iff (r : Rule) : r.payload.hasTrue "block" = true ↔ r.Blocks :=
  Node.hasTrue_iff r.payload "block"

/-- Only a text is equal to a text. -/
theorem asString?_beq_iff (entry : Node) (text : String) :
    (entry.asString? == some text) = true ↔ entry = .string text := by
  rw [beq_iff_eq]
  -- Nothing but a text is read as one.
  cases entry <;> simp [Node.asString?]

/-- A tool is found to be excepted where its name is in the list as a text. -/
theorem isAllowlisted_iff (r : Rule) (tool : String) :
    r.isAllowlisted tool = true ↔ r.Excepts tool := by
  unfold isAllowlisted Excepts
  simp only [Option.any_eq_true, Option.bind_eq_some_iff, Node.items?_eq_some_iff,
    List.any_eq_true, asString?_beq_iff]
  -- The list is the value under the key, and the text that is equal to the name is the name.
  constructor
  · rintro ⟨exceptions, ⟨_, found, rfl⟩, _, member, rfl⟩
    exact ⟨exceptions, found, member⟩
  · rintro ⟨exceptions, found, member⟩
    exact ⟨exceptions, ⟨_, found, rfl⟩, _, member, rfl⟩

/-- A policy is found to ask for an approval where it does so by that word. -/
theorem requiresApproval_iff (r : Rule) : r.requiresApproval = true ↔ r.AsksApproval := by
  unfold requiresApproval AsksApproval
  rw [beq_iff_eq, Option.bind_eq_some_iff]
  constructor
  · rintro ⟨word, found, text⟩
    have isWord : word = .string "approval" :=
      (asString?_beq_iff word "approval").mp (beq_iff_eq.mpr text)
    rw [found, isWord]
  · intro asks
    exact ⟨_, asks, rfl⟩

/-! ### Decisions -/

/-- The decision of a policy is what it says of the input. -/
theorem judges_decide (r : Rule) (input : Node) :
    Judges r input (r.decide input).isAllowed (r.decide input).reason := by
  have blocking := r.hasTrue_block_iff
  have excepting := r.isAllowlisted_iff (toolOf input)
  have asking := r.requiresApproval_iff
  have approving := isApproved_iff input
  unfold decide verdict
  -- The checks are made in this order, and each of them may be the last one.
  cases applies : r.applies (toolOf input) with
  | false =>
    have apart := mt (r.applies_iff_appliesTo (toolOf input)).mpr (by simp [applies])
    exact .notApplicable apart
  | true =>
    have applied := (r.applies_iff_appliesTo (toolOf input)).mp applies
    cases blocks : r.payload.hasTrue "block" with
    | true =>
      cases listed : r.isAllowlisted (toolOf input) with
      | true => exact .allowlisted applied (blocking.mp blocks) (excepting.mp listed)
      | false => exact .blocked applied (blocking.mp blocks) (mt excepting.mpr (by simp [listed]))
    | false =>
      -- Where there is no block the approval is the next thing that the policy may ask for.
      have unblocked := mt blocking.mpr (by simp [blocks])
      cases asks : r.requiresApproval with
      | true =>
        cases given : isApproved input with
        | true => exact .approved applied unblocked (asking.mp asks) (approving.mp given)
        | false =>
          exact .approvalRequired applied unblocked (asking.mp asks)
            (mt approving.mpr (by simp [given]))
      | false => exact .silent applied unblocked (mt asking.mpr (by simp [asks]))

/-- A decision names the policy that made it. -/
theorem policyId_decide (r : Rule) (input : Node) : (r.decide input).policyId = some r.id := rfl

/--
A policy denies an input by a block without an exception or for want of an approval.

Each reason is given in one case: that a policy does not apply where no tool matches, that it blocks
or asks for an approval where it denies, and that a denial is lifted where it would have denied
otherwise. All other inputs are allowed without a reason.
-/
theorem decide_exact (r : Rule) (input : Node) :
    (toolOf input = match input.get? "tool" with
      | some tool => tool.text
      | none => "") ∧
    ((r.decide input).isAllowed = false ↔ r.AppliesTo (toolOf input) ∧
      (r.Blocks ∧ ¬r.Excepts (toolOf input) ∨
        ¬r.Blocks ∧ r.AsksApproval ∧ ¬HasApproval input)) ∧
    ((r.decide input).reason = some .blocked ↔
      r.AppliesTo (toolOf input) ∧ r.Blocks ∧ ¬r.Excepts (toolOf input)) ∧
    ((r.decide input).reason = some .approvalRequired ↔
      r.AppliesTo (toolOf input) ∧ ¬r.Blocks ∧ r.AsksApproval ∧ ¬HasApproval input) ∧
    ((r.decide input).reason = some .notApplicable ↔ ¬r.AppliesTo (toolOf input)) ∧
    ((r.decide input).reason = some .allowlisted ↔
      r.AppliesTo (toolOf input) ∧ r.Blocks ∧ r.Excepts (toolOf input)) ∧
    ((r.decide input).reason = some .approved ↔
      r.AppliesTo (toolOf input) ∧ ¬r.Blocks ∧ r.AsksApproval ∧ HasApproval input) ∧
    ((r.decide input).reason = none ↔
      r.AppliesTo (toolOf input) ∧ ¬r.Blocks ∧ ¬r.AsksApproval) ∧
    (r.decide input).reason ≠ some .allPassed ∧ (r.decide input).policyId = some r.id := by
  have judged := r.judges_decide input
  have named := r.policyId_decide input
  refine ⟨rfl, ?_⟩
  -- The decision is known by its three parts from here on.
  generalize r.decide input = d at judged named ⊢
  obtain ⟨isAllowed, reason, policyId⟩ := d
  subst named
  -- What is said of the input in one case rules out all the others.
  cases judged with
  | notApplicable apart => simp [apart]
  | allowlisted applies blocks excepted => simp [applies, blocks, excepted]
  | blocked applies blocks unexcepted => simp [applies, blocks, unexcepted]
  | approved applies unblocked asks approval => simp [applies, unblocked, asks, approval]
  | approvalRequired applies unblocked asks unapproved =>
    simp [applies, unblocked, asks, unapproved]
  | silent applies unblocked unasked => simp [applies, unblocked, unasked]

end ToolPolicy.Rule
