import ToolPolicy.Policy.Decision
import ToolPolicy.Proofs.Policy.GlobExpression

/-! Which tools the entries of a policy match. A star is meant for any characters, but no line feed
is among those that it takes. -/

namespace ToolPolicy

namespace Glob

/-- A text is an expansion of a pattern when each star is replaced by any characters. -/
inductive Expands : List Char → List Char → Prop
  | nil : Expands [] []
  | char {c : Char} {pattern text : List Char} (literal : c ≠ '*')
      (expands : Expands pattern text) : Expands (c :: pattern) (c :: text)
  | star {pattern text : List Char} (run : List Char) (expands : Expands pattern text) :
      Expands ('*' :: pattern) (run ++ text)

/-- The stars of a pattern can only add line feeds to its own. -/
theorem Expands.count_le {pattern text : List Char} (expands : Expands pattern text) :
    pattern.count '\n' ≤ text.count '\n' := by
  -- A literal character counts in both, and a run only in the text.
  induction expands with
  | nil => exact Nat.le_refl _
  | char _ _ ih =>
    simp only [List.count_cons]
    omega
  | star run _ ih =>
    rw [List.count_append, List.count_cons_of_ne (by decide)]
    omega

/-- A pattern spells its expansions with no line feeds but its own. -/
theorem spells_iff_expands {pattern text : List Char} :
    Spells pattern text ↔
      Expands pattern text ∧ text.count '\n' = pattern.count '\n' := by
  constructor
  · intro spells
    -- A run without line feeds adds none to the count of the text.
    induction spells with
    | nil => exact ⟨.nil, rfl⟩
    | char literal _ ih =>
      exact ⟨.char literal ih.1, by rw [List.count_cons, List.count_cons, ih.2]⟩
    | star run oneLine _ ih =>
      refine ⟨.star run ih.1, ?_⟩
      rw [List.count_append, List.count_eq_zero.mpr oneLine, Nat.zero_add, ih.2,
        List.count_cons_of_ne (by decide)]
  · rintro ⟨expands, same⟩
    induction expands with
    | nil => exact .nil
    | char literal _ ih => exact .char literal (ih (by simpa [List.count_cons] using same))
    | star run expands ih =>
      -- What the other stars take has line feeds enough, so none is left for this one.
      have least := expands.count_le
      rw [List.count_append, List.count_cons_of_ne (by decide)] at same
      have oneLine : run.count '\n' = 0 := by omega
      exact .star run (List.count_eq_zero.mp oneLine) (ih (by omega))

/-- A star alone expands to every text. -/
theorem expands_star (text : List Char) : Expands ['*'] text := by
  simpa using Expands.star text .nil

/-- A pattern covers the tools that it expands to, with no line feeds but its own; with a star in
it, it must not be too heavy. -/
structure Covers (pattern tool : String) : Prop where
  light : hasStar pattern.toList = true → weight pattern.toList ≤ maxWeight
  expands : Expands pattern.toList tool.toList
  sameLines : tool.toList.count '\n' = pattern.toList.count '\n'

/-- A pattern accepts the tools that it covers. -/
theorem accepts_iff_covers (pattern tool : String) :
    accepts pattern tool = true ↔ Covers pattern tool := by
  rw [accepts_iff]
  constructor
  · rintro ⟨light, spells⟩
    obtain ⟨expands, sameLines⟩ := spells_iff_expands.mp spells
    exact ⟨light, expands, sameLines⟩
  · rintro ⟨light, expands, sameLines⟩
    exact ⟨light, spells_iff_expands.mpr ⟨expands, sameLines⟩⟩

/-- Whether it is compared or run as a regular expression, a pattern accepts what its regular
expression matches. -/
theorem accepts_eq_occursIn (pattern tool : String) :
    accepts pattern tool =
      ((!hasStar pattern.toList || weight pattern.toList ≤ maxWeight) &&
        (expression pattern.toList).occursIn tool.toList) := by
  rw [occursIn_expression, accepts]
  cases starred : hasStar pattern.toList with
  | true => rfl
  | false =>
    -- Without a star there is one expansion, which is the pattern itself.
    have compared : isMatch pattern.toList tool.toList = true ↔ pattern = tool := by
      rw [isMatch_iff, spells_iff_eq starred, String.toList_inj]
    change (pattern == tool) = isMatch pattern.toList tool.toList
    rw [Bool.eq_iff_iff, compared, beq_iff_eq]

end Glob

open Glob (Covers Expands expression)

/-- Only texts match, and they match the tools that they cover; a star alone matches the tools
without line feeds. The comparison that is made without a star gives what the regular expression of
the pattern gives. -/
theorem toolMatches_exact (tool : String) :
    (∀ entry, toolMatches entry tool = true ↔ ∃ pattern, entry = .string pattern ∧
      Covers pattern tool) ∧
    (toolMatches (.string "*") tool = true ↔ '\n' ∉ tool.toList) ∧
    ∀ pattern, ∃ e, Regex.plainExpressionOf (Glob.spelling pattern.toList) = .ok e ∧
      toolMatches (.string pattern) tool =
        ((!Glob.hasStar pattern.toList || Glob.weight pattern.toList ≤ Glob.maxWeight) &&
          e.occursIn tool.toList) := by
  -- An entry that is no string matches nothing.
  have exact : ∀ entry, toolMatches entry tool = true ↔ ∃ pattern, entry = .string pattern ∧
      Covers pattern tool := by
    intro entry
    cases entry with
    | string pattern => simp [toolMatches, Glob.accepts_iff_covers]
    | _ => simp [toolMatches]
  refine ⟨exact, ?_, ?_⟩
  · rw [exact]
    constructor
    -- The pattern of a star has no line feed of its own, so that the tool has none.
    · rintro ⟨pattern, entry, covers⟩
      cases entry
      exact List.count_eq_zero.mp covers.sameLines
    · intro oneLine
      exact ⟨"*", rfl, fun _ => by decide, Glob.expands_star _, List.count_eq_zero.mpr oneLine⟩
  · intro pattern
    exact ⟨expression pattern.toList, Glob.plainExpressionOf_spelling _,
      Glob.accepts_eq_occursIn pattern tool⟩

/-- A star alone does not match a tool of two lines, though it expands to it. -/
theorem star_misses_lineFeed :
    Expands "*".toList "a\nb".toList ∧ Glob.weight "*".toList ≤ Glob.maxWeight ∧
      toolMatches (.string "*") "a\nb" = false :=
  ⟨Glob.expands_star _, by decide, by decide⟩

end ToolPolicy
