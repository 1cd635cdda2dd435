import ToolPolicy.Policy.TestCase

/-! When the tests that policies carry for themselves pass. -/

namespace ToolPolicy

/-- An outcome is a pass exactly where the check of its test succeeds. -/
theorem Rule.isPassed_outcome_iff (r : Rule) (index : Nat) (test : Node) :
    (r.outcome index test).isPassed = true ↔ r.check test = .ok () := by
  unfold outcome TestOutcome.isPassed
  -- An outcome has a message for a failed check only.
  cases r.check test with
  | error failure => simp
  | ok done => simp

/-- All tests of a policy pass exactly where each of its checks succeeds. -/
theorem Rule.runTests_passed_iff (r : Rule) :
    (∀ o ∈ r.runTests, o.isPassed = true) ↔ ∀ test ∈ r.tests, r.check test = .ok () := by
  -- The index of a test only shows in the name of its outcome.
  have tests : r.tests = r.tests.zipIdx.map Prod.fst := by simp
  rw [runTests, List.forall_mem_map, tests, List.forall_mem_map, ← tests]
  simp only [isPassed_outcome_iff]

/-- All tests of a document pass exactly where those of each policy do. -/
theorem runTests_passed_iff (policies : List Rule) :
    (∀ o ∈ runTests policies, o.isPassed = true) ↔
      ∀ r ∈ policies, ∀ test ∈ r.tests, r.check test = .ok () := by
  simp only [runTests, List.forall_mem_flatMap, Rule.runTests_passed_iff]

end ToolPolicy
