import ToolPolicy.Policy.Decision

/-! Denials override: policies together deny what one of them denies, and the first that does gives
the decision. -/

namespace ToolPolicy

/-- Without policies everything passes. -/
theorem decideAll_nil (input : Node) : decideAll [] input = ⟨true, some .allPassed, none⟩ := rfl

/-- The first of some policies settles the decision if it denies, and otherwise the others do. -/
theorem decideAll_cons (r : Rule) (rest : List Rule) (input : Node) :
    decideAll (r :: rest) input =
      if (r.decide input).isAllowed then decideAll rest input else r.decide input := by
  -- The first denial is looked for in the list of decisions, of which this one comes first.
  rw [decideAll, decideAll, List.map_cons, List.find?_cons]
  cases (r.decide input).isAllowed with
  | true => rfl
  | false => rfl

/-- Policies allow together exactly what each of them allows. -/
theorem isAllowed_decideAll_iff (policies : List Rule) (input : Node) :
    (decideAll policies input).isAllowed = true ↔
      ∀ r ∈ policies, (r.decide input).isAllowed = true := by
  -- The first policy denies, or it leaves the decision to the others.
  induction policies with
  | nil => simp [decideAll_nil]
  | cons r rest ih =>
    rw [decideAll_cons, List.forall_mem_cons, ← ih]
    cases allowed : (r.decide input).isAllowed with
    | true => simp
    | false => simp [allowed]

/-- Of two lists of policies the first settles the decision if it denies. -/
theorem decideAll_append (ps qs : List Rule) (input : Node) :
    decideAll (ps ++ qs) input =
      if (decideAll ps input).isAllowed then decideAll qs input else decideAll ps input := by
  -- The induction is on the first list, whose end is where the second one takes over.
  induction ps with
  | nil => rfl
  | cons r rest ih =>
    rw [List.cons_append, decideAll_cons, decideAll_cons, ih]
    cases allowed : (r.decide input).isAllowed with
    | true => rfl
    | false => simp [allowed]

/-- Either all policies allow, or the first one that denies gives the decision. -/
theorem decideAll_cases (policies : List Rule) (input : Node) :
    ((∀ r ∈ policies, (r.decide input).isAllowed = true) ∧
      decideAll policies input = ⟨true, some .allPassed, none⟩) ∨
    ∃ before r after, policies = before ++ r :: after ∧
      (∀ q ∈ before, (q.decide input).isAllowed = true) ∧ (r.decide input).isAllowed = false ∧
      decideAll policies input = r.decide input := by
  -- The case is found on the way to the first policy that denies.
  induction policies with
  | nil => exact .inl ⟨by simp, rfl⟩
  | cons r rest ih =>
    rw [decideAll_cons]
    cases allowed : (r.decide input).isAllowed with
    -- This is the first policy that denies, as there is none before it.
    | false => exact .inr ⟨[], r, rest, rfl, by simp, allowed, rfl⟩
    | true =>
      -- A policy that allows stands before the first one that denies.
      rcases ih with ⟨all, passed⟩ | ⟨before, denying, after, rfl, allow, denied, given⟩
      · exact .inl ⟨List.forall_mem_cons.mpr ⟨allowed, all⟩, passed⟩
      · exact .inr ⟨r :: before, denying, after, rfl, List.forall_mem_cons.mpr ⟨allowed, allow⟩,
          denied, given⟩

/-- More policies never turn a denial into an allowance. -/
theorem isAllowed_decideAll_of_subset {ps qs : List Rule} (more : ps ⊆ qs) {input : Node}
    (allowed : (decideAll qs input).isAllowed = true) : (decideAll ps input).isAllowed = true := by
  -- What is said of all policies is said of some of them.
  rw [isAllowed_decideAll_iff] at allowed ⊢
  exact fun r member => allowed r (more member)

/--
Policies are gone through in order up to the first that denies.

Which of them denies first depends on the order. Whether the input is allowed depends only on which
policies there are, in whatever order and however often, and more of them never allow more.
-/
theorem decideAll_denyOverrides (input : Node) :
    (∀ ps qs, decideAll (ps ++ qs) input =
      if (decideAll ps input).isAllowed then decideAll qs input else decideAll ps input) ∧
    (∀ policies,
      ((∀ r ∈ policies, (r.decide input).isAllowed = true) ∧
        decideAll policies input = ⟨true, some .allPassed, none⟩) ∨
      ∃ before r after, policies = before ++ r :: after ∧
        (∀ q ∈ before, (q.decide input).isAllowed = true) ∧ (r.decide input).isAllowed = false ∧
        decideAll policies input = r.decide input) ∧
    (∀ ps qs : List Rule, (∀ r, r ∈ ps ↔ r ∈ qs) →
      (decideAll ps input).isAllowed = (decideAll qs input).isAllowed) ∧
    (∀ ps qs : List Rule, ps ⊆ qs → (decideAll ps input).isAllowed = false →
      (decideAll qs input).isAllowed = false) := by
  refine ⟨fun ps qs => decideAll_append ps qs input, fun ps => decideAll_cases ps input,
    fun ps qs same => ?_, fun ps qs more denied => ?_⟩
  · -- Either list has all policies of the other one.
    apply Bool.eq_iff_iff.mpr
    constructor
    · exact isAllowed_decideAll_of_subset fun r member => (same r).mpr member
    · exact isAllowed_decideAll_of_subset fun r member => (same r).mp member
  · -- What all policies allow is allowed by those that were there before.
    apply Bool.eq_false_iff.mpr
    intro lifted
    rw [isAllowed_decideAll_of_subset more lifted] at denied
    cases denied

/-- A policy that blocks calls on files. -/
def blockFiles : Rule where
  id := "files"
  description := none
  tools := [.string "file.*"]
  payload := .mapping [("block", .bool true)]
  tests := []

/-- A policy that asks for an approval of all calls. -/
def askAlways : Rule where
  id := "all"
  description := none
  tools := [.string "*"]
  payload := .mapping [("require", .string "approval")]
  tests := []

/-- A call without an approval. -/
def deletion : Node := .mapping [("tool", .string "file.delete")]

/-- Both policies deny the call in whatever order, each with its own reason. -/
theorem deletion_denied :
    decideAll [blockFiles, askAlways] deletion = ⟨false, some .blocked, some "files"⟩ ∧
      decideAll [askAlways, blockFiles, askAlways] deletion =
        ⟨false, some .approvalRequired, some "all"⟩ ∧
      (∀ r, r ∈ [blockFiles, askAlways] ↔ r ∈ [askAlways, blockFiles, askAlways]) ∧
      (decideAll [blockFiles, askAlways] deletion).isAllowed =
        (decideAll [askAlways, blockFiles, askAlways] deletion).isAllowed ∧
      [askAlways] ⊆ [blockFiles, askAlways] ∧
      (decideAll [askAlways] deletion).isAllowed = false ∧
      (decideAll [blockFiles, askAlways] deletion).isAllowed = false := by
  -- The second list only repeats a policy.
  have same (r : Rule) : r ∈ [blockFiles, askAlways] ↔ r ∈ [askAlways, blockFiles, askAlways] := by
    simp only [List.mem_cons, List.not_mem_nil]
    grind
  have more : [askAlways] ⊆ [blockFiles, askAlways] := List.subset_cons_self _ _
  have denied : (decideAll [askAlways] deletion).isAllowed = false := by decide
  obtain ⟨-, -, ordered, kept⟩ := decideAll_denyOverrides deletion
  exact ⟨by decide, by decide, same, ordered _ _ same, more, denied, kept _ _ more denied⟩

end ToolPolicy
