import Mathlib.Data.List.SplitBy
import ToolPolicy.Text.Blank

/-! The runs of a text: where blanks and other characters meet, one run ends and the next begins. -/

namespace ToolPolicy.Blank

/-- The runs of a text: its longest pieces of blanks alone or of other characters alone. -/
structure IsRuns (cs : List Char) (runs : List (List Char)) : Prop where
  whole : runs.flatten = cs
  filled : ∀ run ∈ runs, run ≠ []
  uniform : ∀ run ∈ runs, ∀ c ∈ run, ∀ d ∈ run, isBlank c = isBlank d
  longest : runs.IsChain fun run next => ∀ c ∈ run, ∀ d ∈ next, isBlank c ≠ isBlank d

/-- Whether two characters can stand in one run. -/
def isAlike (c d : Char) : Bool := isBlank c == isBlank d

/-- Neighbors that are alike make a whole piece alike. -/
theorem isBlank_eq_of_isChain {run : List Char} (chain : run.IsChain fun c d => isAlike c d) :
    ∀ c ∈ run, ∀ d ∈ run, isBlank c = isBlank d := by
  -- Each character is like the first one.
  have first : ∀ {c rest}, (c :: rest).IsChain (fun c d => isAlike c d) →
      ∀ d ∈ c :: rest, isBlank d = isBlank c := by
    intro c rest chain d member
    induction rest generalizing c with
    | nil => rw [List.mem_singleton.mp member]
    | cons next rest ih =>
      obtain ⟨alike, chain⟩ := List.isChain_cons_cons.mp chain
      rcases List.mem_cons.mp member with rfl | later
      · rfl
      · exact (ih chain later).trans (beq_iff_eq.mp alike).symm
  cases run with
  | nil => simp
  | cons c rest => exact fun d left e right => (first chain d left).trans (first chain e right).symm

/-- Every text has its runs. -/
theorem exists_isRuns (cs : List Char) : ∃ runs, IsRuns cs runs := by
  have uniform : ∀ run ∈ cs.splitBy isAlike, ∀ c ∈ run, ∀ d ∈ run, isBlank c = isBlank d :=
    fun run member => isBlank_eq_of_isChain (List.isChain_of_mem_splitBy member)
  refine ⟨cs.splitBy isAlike, List.flatten_splitBy _ _,
    fun run member => List.ne_nil_of_mem_splitBy member, uniform, ?_⟩
  -- Two runs differ where they meet, and so they differ everywhere.
  refine (List.isChain_getLast_head_splitBy isAlike cs).imp_of_mem_imp ?_
  rintro run next among amongToo ⟨filled, filledToo, apart⟩ c left d right same
  have ends := uniform run among c left _ (List.getLast_mem filled)
  have starts := uniform next amongToo d right _ (List.head_mem filledToo)
  rw [isAlike, ← ends, ← starts, same, beq_self_eq_true] at apart
  cases apart

/-- The runs after the first one are those of the text after it. -/
theorem IsRuns.tail {cs run : List Char} {rest : List (List Char)} (cut : IsRuns cs (run :: rest)) :
    IsRuns rest.flatten rest where
  whole := rfl
  filled other member := cut.filled other (List.mem_cons_of_mem _ member)
  uniform other member := cut.uniform other (List.mem_cons_of_mem _ member)
  longest := cut.longest.tail

end ToolPolicy.Blank
