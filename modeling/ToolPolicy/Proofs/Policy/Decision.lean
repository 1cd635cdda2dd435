import ToolPolicy.Policy.Decision
import ToolPolicy.Proofs.Policy.Glob

/-! Which tools a policy applies to. -/

namespace ToolPolicy

/-- Only a text matches, as a pattern that fits the tool. -/
theorem toolMatches_iff (entry : Node) (tool : String) :
    toolMatches entry tool = true ↔
      ∃ pattern, entry = .string pattern ∧ Glob.Fits pattern tool := by
  cases entry with
  | string pattern => simp [toolMatches, Glob.accepts_iff]
  | _ => simp [toolMatches]

/-- A policy applies to the tools that the texts among its tools fit. -/
theorem Rule.applies_iff (r : Rule) (tool : String) :
    r.applies tool = true ↔ ∃ pattern, .string pattern ∈ r.tools ∧ Glob.Fits pattern tool := by
  rw [applies, List.any_eq_true]
  simp only [toolMatches_iff]
  -- An entry that matches is the text of its pattern.
  constructor
  · rintro ⟨_, member, pattern, rfl, fits⟩
    exact ⟨pattern, member, fits⟩
  · rintro ⟨pattern, member, fits⟩
    exact ⟨.string pattern, member, pattern, rfl, fits⟩

end ToolPolicy
