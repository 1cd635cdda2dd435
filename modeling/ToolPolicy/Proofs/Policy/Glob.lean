import ToolPolicy.Policy.Glob

/-! What patterns of tool names match: a star stands for any run of characters but line feeds. -/

namespace ToolPolicy.Glob

/-- A text is spelled by a pattern when each star of it is replaced by some run of characters. -/
inductive Spells : List Char → List Char → Prop
  | nil : Spells [] []
  | char {c : Char} {pattern text : List Char} (literal : c ≠ '*')
      (spells : Spells pattern text) : Spells (c :: pattern) (c :: text)
  | star {pattern text : List Char} (run : List Char) (oneLine : '\n' ∉ run)
      (spells : Spells pattern text) : Spells ('*' :: pattern) (run ++ text)

/-- A pattern spells itself, with a star in the place of each star. -/
theorem spells_self (pattern : List Char) : Spells pattern pattern := by
  -- Every star stands for the run that is itself.
  induction pattern with
  | nil => exact .nil
  | cons c pattern ih =>
    by_cases star : c = '*'
    · subst star
      exact .star ['*'] (by decide) ih
    · exact .char star ih

/-- A star alone spells every text of one line. -/
theorem spells_star {text : List Char} (oneLine : '\n' ∉ text) : Spells ['*'] text := by
  have whole := Spells.star text oneLine .nil
  rwa [List.append_nil] at whole

/-! ### Rows of positions -/

/-- What is left of a text behind each of the positions that are reached. -/
def rests : List Char → List Bool → List (List Char)
  | [], reached => if reached.headD false then [[]] else []
  | c :: text, reached =>
    if reached.headD false then (c :: text) :: rests text reached.tail
    else rests text reached.tail

/-- Without any position that is reached nothing is left. -/
theorem rests_unreached {text : List Char} {reached : List Bool}
    (unreached : ∀ here ∈ reached, here = false) : rests text reached = [] := by
  -- A row that ends early has no further position that is reached.
  induction text generalizing reached with
  | nil =>
    cases reached with
    | nil => rfl
    | cons here reached => simp [rests, unreached here]
  | cons c text ih =>
    cases reached with
    | nil => simpa [rests] using ih unreached
    | cons here reached =>
      simpa [rests, unreached here] using
        ih fun later member => unreached later (List.mem_cons_of_mem here member)

/-- At the end of a text only its end can be left. -/
theorem mem_rests_nil {rest : List Char} {reached : List Bool} :
    rest ∈ rests [] reached ↔ reached.headD false = true ∧ rest = [] := by
  unfold rests
  cases reached.headD false <;> simp

/-- The positions after a first one are those of the text after its first character. -/
theorem mem_rests_cons {rest text : List Char} {c : Char} {reached : List Bool} :
    rest ∈ rests (c :: text) reached ↔
      (reached.headD false = true ∧ rest = c :: text) ∨ rest ∈ rests text reached.tail := by
  rw [rests]
  cases reached.headD false <;> simp

/-- Before anything was read, the whole text is left. -/
theorem mem_rests_start {rest text : List Char} :
    rest ∈ rests text (start text) ↔ rest = text := by
  -- Only the position in front is reached.
  cases text with
  | nil => simp [start, mem_rests_nil]
  | cons c text =>
    rw [start, mem_rests_cons, List.tail_cons, rests_unreached (by simp)]
    simp

/-- After a character that passes, what was left before it begins with it. -/
theorem mem_rests_advance {passes : Char → Bool} {rest text : List Char} {reached : List Bool} :
    rest ∈ rests text (false :: List.zipWith (fun here d => here && passes d) reached text) ↔
      ∃ d, passes d = true ∧ d :: rest ∈ rests text reached := by
  -- The position in front stands for what is left where the row so far has come from.
  have general : ∀ (text : List Char) (here : Bool) (reached : List Bool),
      rest ∈ rests text (here :: List.zipWith (fun here d => here && passes d) reached text) ↔
        (here = true ∧ rest = text) ∨ ∃ d, passes d = true ∧ d :: rest ∈ rests text reached := by
    intro text
    -- The induction is on the text, with the position in front and the row left open.
    induction text with
    | nil =>
      intro here reached
      simp [mem_rests_nil]
    | cons d text ih =>
      intro here reached
      rw [mem_rests_cons]
      cases reached with
      | nil => simp [rests_unreached]
      | cons next reached =>
        rw [List.zipWith_cons_cons, List.tail_cons, ih]
        simp only [mem_rests_cons, List.headD_cons, List.tail_cons, Bool.and_eq_true,
          List.cons.injEq]
        constructor
        -- The step goes over the first character, or over one further on.
        · rintro (front | ⟨⟨reached, passed⟩, rfl⟩ | ⟨e, passed, left⟩)
          · exact .inl front
          · exact .inr ⟨d, passed, .inl ⟨reached, rfl, rfl⟩⟩
          · exact .inr ⟨e, passed, .inr left⟩
        · rintro (front | ⟨e, passed, ⟨reached, rfl, rfl⟩ | left⟩)
          · exact .inl front
          · exact .inr (.inl ⟨⟨reached, passed⟩, rfl⟩)
          · exact .inr (.inr ⟨e, passed, left⟩)
  rw [general]
  simp

/-- A literal character is taken off what was left. -/
theorem mem_rests_afterChar {c : Char} {rest text : List Char} {reached : List Bool} :
    rest ∈ rests text (afterChar c text reached) ↔ c :: rest ∈ rests text reached := by
  rw [afterChar, mem_rests_advance]
  simp

/-- A run in front of a rest is empty, or else it begins like the text. -/
theorem run_eq_cons {run rest text : List Char} {c : Char} (oneLine : '\n' ∉ run)
    (whole : run ++ rest = c :: text) :
    rest = c :: text ∨ (¬c = '\n' ∧ ∃ run, '\n' ∉ run ∧ run ++ rest = text) := by
  -- A run that is not empty takes the first character, which is then no line feed.
  cases run with
  | nil => exact .inl whole
  | cons d run =>
    obtain ⟨rfl, tail⟩ := List.cons.inj whole
    simp only [List.mem_cons, not_or] at oneLine
    exact .inr ⟨Ne.symm oneLine.1, run, oneLine.2, tail⟩

/-- A run of characters without line feeds is taken off what was left before a star. -/
theorem mem_rests_afterStar {carried : Bool} {rest text : List Char} {reached : List Bool} :
    rest ∈ rests text (afterStar carried text reached) ↔
      (carried = true ∧ ∃ run, '\n' ∉ run ∧ run ++ rest = text) ∨
      ∃ run, '\n' ∉ run ∧ run ++ rest ∈ rests text reached := by
  -- A position carries on exactly what may still grow by the next character.
  induction text generalizing carried reached with
  | nil =>
    simp only [afterStar, mem_rests_nil, List.headD_cons, Bool.or_eq_true, List.append_eq_nil_iff]
    constructor
    · rintro ⟨here | here, rfl⟩
      · exact .inl ⟨here, [], by simp⟩
      · exact .inr ⟨[], by simpa using here⟩
    · rintro (⟨here, run, _, _, rfl⟩ | ⟨run, _, here, _, rfl⟩)
      · exact ⟨.inl here, rfl⟩
      · exact ⟨.inr here, rfl⟩
  | cons c text ih =>
    simp only [afterStar, mem_rests_cons, List.headD_cons, List.tail_cons, ih, Bool.and_eq_true,
      Bool.or_eq_true, bne_iff_ne, ne_eq]
    constructor
    · rintro (⟨here | here, rfl⟩ | ⟨⟨here | here, plain⟩, run, oneLine, rfl⟩ |
        ⟨run, oneLine, left⟩)
      · exact .inl ⟨here, [], by simp, rfl⟩
      · exact .inr ⟨[], by simp, .inl ⟨here, rfl⟩⟩
      · exact .inl ⟨here, c :: run, by simp [oneLine, Ne.symm plain], rfl⟩
      · exact .inr ⟨c :: run, by simp [oneLine, Ne.symm plain], .inl ⟨here, rfl⟩⟩
      · exact .inr ⟨run, oneLine, .inr left⟩
    · rintro (⟨here, run, oneLine, whole⟩ | ⟨run, oneLine, ⟨here, whole⟩ | left⟩)
      -- The run ends here, or it goes over this character and is carried on.
      · rcases run_eq_cons oneLine whole with all | ⟨plain, shorter⟩
        · exact .inl ⟨.inl here, all⟩
        · exact .inr (.inl ⟨⟨.inl here, plain⟩, shorter⟩)
      · rcases run_eq_cons oneLine whole with all | ⟨plain, shorter⟩
        · exact .inl ⟨.inr here, all⟩
        · exact .inr (.inl ⟨⟨.inr here, plain⟩, shorter⟩)
      · exact .inr (.inr ⟨run, oneLine, left⟩)

/-- A pattern takes what it spells off what was left before it. -/
theorem mem_rests_reachedAfter {pattern rest text : List Char} {reached : List Bool} :
    rest ∈ rests text (reachedAfter text pattern reached) ↔
      ∃ taken, Spells pattern taken ∧ taken ++ rest ∈ rests text reached := by
  -- What the rest of the pattern takes follows what its first character takes.
  induction pattern generalizing reached with
  | nil =>
    constructor
    · intro left
      exact ⟨[], .nil, left⟩
    · rintro ⟨_, spells, left⟩
      cases spells
      exact left
  | cons c pattern ih =>
    rw [reachedAfter, ih]
    -- A star takes a run, and any other character takes itself.
    by_cases star : c = '*'
    · subst star
      simp only [if_true, mem_rests_afterStar, Bool.false_eq_true, false_and, false_or]
      constructor
      · rintro ⟨taken, spells, run, oneLine, left⟩
        exact ⟨run ++ taken, .star run oneLine spells, by rwa [List.append_assoc]⟩
      · rintro ⟨_, spells, left⟩
        cases spells with
        | char literal spells => exact absurd rfl literal
        | star run oneLine spells =>
          exact ⟨_, spells, run, oneLine, by rwa [← List.append_assoc]⟩
    · simp only [if_neg star, mem_rests_afterChar]
      constructor
      · rintro ⟨taken, spells, left⟩
        exact ⟨c :: taken, .char star spells, left⟩
      · rintro ⟨_, spells, left⟩
        cases spells with
        | char literal spells => exact ⟨_, spells, left⟩
        | star run oneLine spells => exact absurd rfl star

/-! ### Whole texts -/

/-- A star leaves the number of positions as it is. -/
theorem length_afterStar (carried : Bool) (text : List Char) (reached : List Bool) :
    (afterStar carried text reached).length = text.length + 1 := by
  induction text generalizing carried reached with
  | nil => rfl
  | cons c text ih => simp [afterStar, ih]

/-- A row has a position for each place before, between and after the characters. -/
theorem length_reachedAfter {text pattern : List Char} {reached : List Bool}
    (full : reached.length = text.length + 1) :
    (reachedAfter text pattern reached).length = text.length + 1 := by
  induction pattern generalizing reached with
  | nil => exact full
  | cons c pattern ih =>
    rw [reachedAfter]
    -- Either kind of step leaves the row as long as it was.
    apply ih
    split
    · exact length_afterStar false text reached
    · simp [afterChar, full]

/-- The last position is the one at which nothing is left. -/
theorem getLast?_eq_some_true_iff {text : List Char} {reached : List Bool}
    (full : reached.length = text.length + 1) :
    reached.getLast? = some true ↔ [] ∈ rests text reached := by
  -- Going on by a character drops a position at the front, and the last one stays the last.
  induction text generalizing reached with
  | nil =>
    obtain ⟨last, rfl⟩ := List.length_eq_one_iff.mp full
    simp [mem_rests_nil]
  | cons c text ih =>
    -- A row for a text that is not empty has two positions at least.
    cases reached with
    | nil => simp at full
    | cons here reached =>
      have shorter : reached.length = text.length + 1 := by simpa using full
      cases reached with
      | nil => simp at shorter
      | cons next reached =>
        rw [List.getLast?_cons_cons, ih shorter, mem_rests_cons]
        simp

/-- A pattern matches the texts that it spells. -/
theorem isMatch_iff (pattern text : List Char) :
    isMatch pattern text = true ↔ Spells pattern text := by
  -- The last position is reached where the pattern takes the whole text.
  have full : (start text).length = text.length + 1 := by simp [start]
  rw [isMatch, beq_iff_eq, getLast?_eq_some_true_iff (length_reachedAfter full),
    mem_rests_reachedAfter]
  simp [mem_rests_start]

/-- Without a star a pattern spells only itself. -/
theorem spells_iff_eq {pattern text : List Char} (plain : hasStar pattern = false) :
    Spells pattern text ↔ pattern = text := by
  -- No character of the pattern can stand for anything but itself.
  constructor
  · intro spells
    induction spells with
    | nil => rfl
    | char literal spells ih =>
      rw [ih (by simp_all [hasStar])]
    | star run oneLine spells ih => simp [hasStar] at plain
  · rintro rfl
    exact spells_self pattern

/-- A pattern fits a tool that it spells; with a star in it, it must not be too heavy. -/
structure Fits (pattern tool : String) : Prop where
  light : hasStar pattern.toList = true → weight pattern.toList ≤ maxWeight
  spells : Spells pattern.toList tool.toList

/-- A pattern accepts the tools that it fits. -/
theorem accepts_iff (pattern tool : String) : accepts pattern tool = true ↔ Fits pattern tool := by
  have parts : Fits pattern tool ↔
      (hasStar pattern.toList = true → weight pattern.toList ≤ maxWeight) ∧
        Spells pattern.toList tool.toList :=
    ⟨fun fits => ⟨fits.light, fits.spells⟩, fun ⟨light, spells⟩ => ⟨light, spells⟩⟩
  rw [parts]
  unfold accepts
  -- Without a star there is nothing to weigh, and the texts are compared as they are.
  cases starred : hasStar pattern.toList with
  | true => simp [isMatch_iff]
  | false => simp [spells_iff_eq starred, String.toList_inj]

end ToolPolicy.Glob
