import ToolPolicy.Proofs.Policy.DenyOverrides

/-! What an approval changes: it lifts denials for want of one, and nothing else of an input but the
tool counts. -/

namespace ToolPolicy

/-- An input says that the call is approved, by itself or in its context. -/
def HasApproval (input : Node) : Prop :=
  input.get? "approval" = some (.bool true) ∨
    ∃ context, input.get? "context" = some context ∧ context.get? "approved" = some (.bool true)

/-- Only the value `true` is true. -/
theorem Node.isTrue_iff (n : Node) : n.isTrue = true ↔ n = .bool true := by
  cases n <;> simp [isTrue, asBool?]

/-- A value under a key is true if it is the value `true`. -/
theorem Node.hasTrue_iff (n : Node) (key : String) :
    n.hasTrue key = true ↔ n.get? key = some (.bool true) := by
  simp [hasTrue, Option.any_eq_true, Node.isTrue_iff]

/-- An approval is found where an input says that there is one. -/
theorem isApproved_iff (input : Node) : isApproved input = true ↔ HasApproval input := by
  -- The two places are looked at in the order in which they are listed here.
  rw [isApproved, Bool.or_eq_true, Node.hasTrue_iff, Option.any_eq_true]
  simp only [Node.hasTrue_iff, HasApproval]

/-- Whether an input says that the call is approved can be computed. -/
instance (input : Node) : Decidable (HasApproval input) :=
  decidable_of_iff _ (isApproved_iff input)

namespace Rule

/-- A decision reads the tool of an input and its approval. -/
theorem decide_congr {a b : Node} (sameTool : toolOf a = toolOf b)
    (sameApproval : isApproved a = isApproved b) (r : Rule) : r.decide a = r.decide b := by
  -- Nothing else of the input stands in the verdict.
  unfold decide verdict
  rw [sameTool, sameApproval]

/-- Where an approval makes a difference to a policy, it is what the policy asks for. -/
theorem decide_of_approval {a b : Node} (sameTool : toolOf a = toolOf b)
    (refused : isApproved a = false) (given : isApproved b = true) (r : Rule) :
    r.decide b = r.decide a ∨
      r.decide a = ⟨false, some .approvalRequired, some r.id⟩ ∧
        r.decide b = ⟨true, some .approved, some r.id⟩ := by
  unfold decide verdict
  rw [← sameTool, refused, given]
  -- A policy that does not apply, or that blocks, does not look at the approval.
  by_cases applies : r.applies (toolOf a) = true
  · by_cases blocks : r.payload.hasTrue "block" = true
    -- A block is settled by the tool and the list of exceptions, before any approval is asked for.
    · left
      simp [applies, blocks]
    · cases asks : r.requiresApproval with
      | true =>
        -- Only here is the approval asked for, and the two inputs get the two answers to it.
        right
        simp [applies, blocks]
      | false =>
        left
        simp [applies, blocks]
  · left
    simp [applies]

/-- A policy gives that it blocks as the reason of denials only. -/
theorem isAllowed_of_blocked {r : Rule} {input : Node}
    (blocked : (r.decide input).reason = some .blocked) : (r.decide input).isAllowed = false := by
  unfold decide verdict at blocked ⊢
  -- The reason is that of one branch of the verdict; all the others contradict it.
  by_cases applies : r.applies (toolOf input) = true
  · by_cases blocks : r.payload.hasTrue "block" = true
    · cases listed : r.isAllowlisted (toolOf input) with
      | true => simp [applies, blocks, listed] at blocked
      | false => simp [applies, blocks]
    · -- Without a block there is an approval to ask for, or no reason at all.
      by_cases asks : r.requiresApproval = true
      · cases given : isApproved input <;> simp [applies, blocks, asks, given] at blocked
      · simp [applies, blocks, asks] at blocked
  · simp [applies] at blocked

/-- An approval does not lift a block. -/
theorem decide_eq_of_blocked {a b : Node} (sameTool : toolOf a = toolOf b)
    (refused : isApproved a = false) (given : isApproved b = true) {r : Rule}
    (blocked : (r.decide a).reason = some .blocked) : r.decide b = r.decide a := by
  rcases decide_of_approval sameTool refused given r with same | ⟨asked, -⟩
  · exact same
  · -- What an approval lifts is the want of one, which is another reason.
    rw [asked] at blocked
    cases blocked

/-- An approval denies nothing. -/
theorem isAllowed_of_approval {a b : Node} (sameTool : toolOf a = toolOf b)
    (refused : isApproved a = false) (given : isApproved b = true) {r : Rule}
    (allowed : (r.decide a).isAllowed = true) : (r.decide b).isAllowed = true := by
  rcases decide_of_approval sameTool refused given r with same | ⟨-, lifted⟩
  -- The decision is the same, or it is one that the approval has lifted.
  · rw [same]
    exact allowed
  · rw [lifted]

end Rule

/-- Policies decide together alike where each of them does. -/
theorem decideAll_congr {a b : Node} {policies : List Rule}
    (same : ∀ r ∈ policies, r.decide a = r.decide b) :
    decideAll policies a = decideAll policies b := by
  rw [decideAll, decideAll, List.map_congr_left same]

/-- An approval does not change the decision of policies that is a block. -/
theorem decideAll_eq_of_blocked {a b : Node} (sameTool : toolOf a = toolOf b)
    (refused : isApproved a = false) (given : isApproved b = true) {policies : List Rule}
    (blocked : (decideAll policies a).reason = some .blocked) :
    decideAll policies b = decideAll policies a := by
  -- Policies before the one that blocks allow the input, and do so with an approval as well.
  induction policies with
  | nil => cases blocked
  | cons r rest ih =>
    rw [decideAll_cons] at blocked ⊢
    rw [decideAll_cons]
    cases first : (r.decide a).isAllowed with
    -- An approval cannot make this policy deny, so that the decision is still left to the others.
    | true =>
      simp only [first, if_true] at blocked ⊢
      rw [Rule.isAllowed_of_approval sameTool refused given first]
      exact ih blocked
    -- This is the policy that blocks, and it keeps its decision.
    | false =>
      simp only [first, Bool.false_eq_true, if_false] at blocked ⊢
      rw [Rule.decide_eq_of_blocked sameTool refused given blocked, first]
      rfl

/--
Of inputs with the same tool the decisions differ only by an approval.

One that is given denies nothing that was allowed before. A policy that blocks keeps its decision,
and as long as there is one the policies together deny the input.
-/
theorem decisions_differ_by_approval {a b : Node} (sameTool : toolOf a = toolOf b) :
    ((HasApproval a ↔ HasApproval b) →
      (∀ r : Rule, r.decide a = r.decide b) ∧ ∀ policies, decideAll policies a = decideAll policies b) ∧
    (¬HasApproval a → HasApproval b →
      (∀ r : Rule, (r.decide a).isAllowed = true → (r.decide b).isAllowed = true) ∧
      (∀ policies, (decideAll policies a).isAllowed = true →
        (decideAll policies b).isAllowed = true) ∧
      (∀ r : Rule, (r.decide a).reason = some .blocked →
        r.decide b = r.decide a ∧ (r.decide b).isAllowed = false) ∧
      (∀ policies, (decideAll policies a).reason = some .blocked →
        decideAll policies b = decideAll policies a) ∧
      ∀ policies : List Rule, ∀ r ∈ policies, (r.decide a).reason = some .blocked →
        (decideAll policies b).isAllowed = false) := by
  rw [← isApproved_iff, ← isApproved_iff]
  constructor
  -- With the same approval the inputs cannot be told apart by any policy.
  · intro same
    have alike (r : Rule) : r.decide a = r.decide b :=
      r.decide_congr sameTool (Bool.eq_iff_iff.mpr same)
    exact ⟨alike, fun policies => decideAll_congr fun r _ => alike r⟩
  -- The approval is missing in the first input only.
  · intro without given
    have refused := Bool.eq_false_iff.mpr without
    have kept (r : Rule) (blocked : (r.decide a).reason = some .blocked) :
        r.decide b = r.decide a ∧ (r.decide b).isAllowed = false := by
      have same := Rule.decide_eq_of_blocked sameTool refused given blocked
      exact ⟨same, same ▸ Rule.isAllowed_of_blocked blocked⟩
    refine ⟨fun r => Rule.isAllowed_of_approval sameTool refused given, fun policies allowed => ?_,
      kept, fun policies => decideAll_eq_of_blocked sameTool refused given,
      fun policies r member blocked => ?_⟩
    -- All policies allowed the input without the approval, and each of them still does.
    · rw [isAllowed_decideAll_iff] at allowed ⊢
      exact fun r member => Rule.isAllowed_of_approval sameTool refused given (allowed r member)
    · -- What one of them denies is denied by all of them together.
      apply Bool.eq_false_iff.mpr
      intro lifted
      have denied := (kept r blocked).2
      rw [(isAllowed_decideAll_iff policies b).mp lifted r member] at denied
      cases denied

/-- The same call with other arguments, and with an approval that is only a text. -/
def argued : Node :=
  .mapping [("args", .mapping [("path", .string "/tmp")]), ("tool", .string "file.delete"),
    ("approval", .string "true")]

/-- The same call with an approval in its context. -/
def approvedDeletion : Node :=
  .mapping [("tool", .string "file.delete"), ("context", .mapping [("approved", .bool true)])]

/-- Arguments do not count, and an approval lifts a denial for want of one but no block. -/
theorem deletion_decided :
    (toolOf deletion = toolOf argued ∧ (HasApproval deletion ↔ HasApproval argued) ∧
      decideAll [blockFiles, askAlways] deletion = decideAll [blockFiles, askAlways] argued) ∧
    toolOf deletion = toolOf approvedDeletion ∧ ¬HasApproval deletion ∧
      HasApproval approvedDeletion ∧
      (askAlways.decide deletion).isAllowed = false ∧
      (askAlways.decide approvedDeletion).isAllowed = true ∧
      (blockFiles.decide deletion).reason = some .blocked ∧
      blockFiles.decide approvedDeletion = blockFiles.decide deletion ∧
      (decideAll [askAlways, blockFiles] approvedDeletion).isAllowed = false := by
  have neither : HasApproval deletion ↔ HasApproval argued := by decide
  have without : ¬HasApproval deletion := by decide
  have given : HasApproval approvedDeletion := by decide
  have blocked : (blockFiles.decide deletion).reason = some .blocked := by decide
  obtain ⟨alike, -⟩ := decisions_differ_by_approval (a := deletion) (b := argued) rfl
  obtain ⟨-, differ⟩ := decisions_differ_by_approval (a := deletion) (b := approvedDeletion) rfl
  obtain ⟨-, -, kept, -, denied⟩ := differ without given
  exact ⟨⟨rfl, neither, (alike neither).2 _⟩, rfl, without, given, by decide, by decide, blocked,
    (kept blockFiles blocked).1, denied [askAlways, blockFiles] blockFiles (by simp) blocked⟩

end ToolPolicy
