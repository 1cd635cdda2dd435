import Mathlib.Data.List.Forall2
import ToolPolicy.Proofs.Policy.Glob
import ToolPolicy.Regex.Basic

/-! Patterns of tool names as regular expressions: a star becomes a dot that is repeated, all other
characters stand for themselves, and the expression is for whole texts. -/

namespace ToolPolicy

namespace Regex

/-- The switches of a search in which case counts. -/
def Switches.plain : Switches := ⟨false, false, false, true, false⟩

/-- What a pattern means where case counts. -/
def plainExpressionOf (pattern : List Char) : Except Error Expression := do
  let p ← Pattern.parse pattern
  p.checkNesting
  let (e, _) ← p.meaning .plain
  return e

end Regex

namespace Glob

open Regex (Expression Switches Cursor Branches Pattern Place Atom)

/-! ### Spelling -/

/-- A character that stands for itself in a regular expression. -/
def escaped (c : Char) : List Char := if Regex.isMeta c then ['\\', c] else [c]

/-- A pattern of tool names, written as a regular expression. -/
def spelling (pattern : List Char) : List Char :=
  '^' :: List.intercalate ['.', '*'] ((pattern.splitOn '*').map (·.flatMap escaped)) ++ ['$']

/-- What a regular expression has for a character of a pattern. -/
def partSpelling (c : Char) : List Char := if c = '*' then ['.', '*'] else escaped c

/-- A text in front of the first of several that are joined. -/
theorem intercalate_modifyHead {α : Type} (sep front : List α) {parts : List (List α)}
    (nonempty : parts ≠ []) :
    List.intercalate sep (parts.modifyHead (front ++ ·)) = front ++ List.intercalate sep parts := by
  cases parts with
  | nil => exact absurd rfl nonempty
  | cons part rest =>
    -- The first part may also be the last one, with nothing after it to join.
    cases rest with
    | nil => simp
    | cons next rest => simp [List.intercalate_cons_cons]

/-- A star is spelled in its place, between the parts before and after it. -/
theorem spelling_eq (pattern : List Char) :
    spelling pattern = '^' :: pattern.flatMap partSpelling ++ ['$'] := by
  have joined : List.intercalate ['.', '*'] ((pattern.splitOn '*').map (·.flatMap escaped)) =
      pattern.flatMap partSpelling := by
    induction pattern with
    | nil => rfl
    | cons c rest ih =>
      have parts : (rest.splitOn '*').map (·.flatMap escaped) ≠ [] := by
        simp [List.splitOn_ne_nil]
      rw [List.splitOn_cons_eq_if_modifyHead, List.flatMap_cons, ← ih]
      by_cases star : c = '*'
      · simp [star, partSpelling, List.intercalate_cons_of_ne_nil parts]
      · -- Any other character goes to the front of the first part.
        rw [if_neg (by simpa using star), ← intercalate_modifyHead _ _ parts, partSpelling,
          if_neg star]
        congr 1
        cases rest.splitOn '*' <;> simp
  rw [spelling, joined]

/-! ### Reading -/

/-- A cursor at a place of a regular expression in which blanks count and no group has a name. -/
def cursorAt (rest : List Char) (p : Place) : Cursor := ⟨rest, p, false, []⟩

/-- An item of a regular expression that means an expression and does not nest too deep. -/
structure Stands (item : Pattern) (e : Expression) : Prop where
  meaning : item.meaning .plain = .ok (e, .plain)
  shallow : ∀ levels, item.tooDeep? (levels + 1) = none

/-- A part of a regular expression is read as one item, unless a question mark follows it. -/
def ReadsAs (part : List Char) (e : Expression) : Prop :=
  ∀ (fuel : Nat) (b : Branches) (rest : List Char) (p : Place), rest.head? ≠ some '?' →
    (part ++ rest).length < fuel →
    -- The reader goes on behind the part, with the item added and fuel for all that is left.
    ∃ (item : Pattern) (left : Nat) (past : Place), Stands item e ∧ rest.length < left ∧
      Regex.branches fuel b (cursorAt (part ++ rest) p) =
        Regex.branches left (b.push item) (cursorAt rest past)

/-- What neither groups nor repeats is read as an atom. -/
theorem branches_atom {d : Char} (ordinary : d ∉ [')', '(', '|', '[', '?', '*', '+', '{'])
    (fuel : Nat) (b : Branches) (rest : List Char) (p : Place) :
    Regex.branches (fuel + 1) b (cursorAt (d :: rest) p) =
      (do
        let (a, after) ← Regex.atom (cursorAt (d :: rest) p)
        Regex.branches fuel (b.push (.atom a)) after) := by
  -- Each of the other ways of reading begins with one of these characters.
  simp only [List.mem_cons, not_or] at ordinary
  rw [Regex.branches]
  simp [cursorAt, Cursor.skipBlanks, Cursor.char?, ordinary]

/-- A part that is one atom is read as what the atom means. -/
theorem readsAs_atom {d : Char} {more : List Char} {e : Expression}
    (ordinary : d ∉ [')', '(', '|', '[', '?', '*', '+', '{'])
    (reads : ∀ rest p, ∃ a past, Regex.atom (cursorAt (d :: (more ++ rest)) p) =
      .ok (a, cursorAt rest past) ∧ Switches.plain.atomExpression a = .ok e) :
    ReadsAs (d :: more) e := by
  intro fuel b rest p _ enough
  obtain ⟨a, past, read, means⟩ := reads rest p
  cases fuel with
  | zero => omega
  | succ fuel =>
    -- An atom alone neither nests nor changes the switches.
    have stands : Stands (.atom a) e :=
      ⟨by simp [Pattern.meaning, means, Except.map], fun _ => rfl⟩
    have shorter : rest.length < fuel := by
      rw [List.length_append, List.length_cons] at enough
      omega
    refine ⟨.atom a, fuel, past, stands, shorter, ?_⟩
    rw [List.cons_append, branches_atom ordinary, read]
    rfl

/-- The sign for the start of a text is read as such. -/
theorem readsAs_start : ReadsAs ['^'] (.look .start) :=
  readsAs_atom (by decide) fun _ _ => ⟨_, _, rfl, rfl⟩

/-- So is the sign for its end. -/
theorem readsAs_finish : ReadsAs ['$'] (.look .finish) :=
  readsAs_atom (by decide) fun _ _ => ⟨_, _, rfl, rfl⟩

/-- The characters that have a meaning of their own. -/
def metaChars : List Char :=
  ['\\', '.', '+', '*', '?', '(', ')', '|', '[', ']', '{', '}', '^', '$', '#', '&', '-', '~']

/-- These are the characters that have to be escaped. -/
theorem isMeta_iff {c : Char} : Regex.isMeta c = true ↔ c ∈ metaChars := by
  rw [Regex.isMeta, List.contains_iff_mem]
  rfl

/-- A character with a meaning of its own has none behind a backslash. -/
theorem escape_meta {c : Char} (special : Regex.isMeta c = true) (rest : List Char) (p : Place) :
    Regex.escape (cursorAt ('\\' :: c :: rest) p) =
      .ok (.literal ⟨⟨p, (p.after '\\').after c⟩, c, false⟩,
        cursorAt rest ((p.after '\\').after c)) := by
  -- None of the escapes that have a letter or a digit begins with such a character.
  have unnamed : metaChars.all (fun d =>
      !(d.isDigit || ['x', 'u', 'U', 'p', 'P', 'b'].contains d)) = true := by decide
  have plain := List.all_eq_true.mp unnamed c (isMeta_iff.mp special)
  simp only [Bool.not_eq_true', Bool.or_eq_false_iff, List.contains_eq_mem,
    decide_eq_false_iff_not, List.mem_cons, not_or] at plain
  obtain ⟨noDigit, noLetter⟩ := plain
  -- All branches for named escapes are closed by these two facts.
  simp [Regex.escape, cursorAt, Cursor.next, Cursor.char?, Cursor.since, Regex.isEscapable, special,
    noDigit, noLetter]

/-- A character that is escaped where it must be stands for itself. -/
theorem readsAs_escaped (c : Char) : ReadsAs (escaped c) (.char c) := by
  rw [escaped]
  cases special : Regex.isMeta c with
  | true =>
    -- The backslash begins the atom.
    apply readsAs_atom (by decide)
    intro rest p
    exact ⟨_, _, escape_meta special rest p, rfl⟩
  | false =>
    have ordinary : c ∉ metaChars := by
      rw [← isMeta_iff, special]
      decide
    -- Without a meaning of its own a character is a literal.
    simp only [metaChars, List.mem_cons, not_or] at ordinary
    apply readsAs_atom (by simp [ordinary])
    intro rest p
    refine ⟨.literal ⟨⟨p, p.after c⟩, c, false⟩, p.after c, ?_, rfl⟩
    simp [Regex.atom, cursorAt, Cursor.next, Cursor.char?, Cursor.charSpan, ordinary]

/-- A star repeats the last item. -/
theorem branches_star {item : Pattern} {rest : List Char} (repeatable : item.isRepeatable = true)
    (unasked : rest.head? ≠ some '?') (fuel : Nat) (b : Branches) (p : Place) :
    Regex.branches (fuel + 1) (b.push item) (cursorAt ('*' :: rest) p) =
      Regex.branches fuel (b.push (.repetition ⟨item.span.first, p.after '*'⟩ 0 none item))
        (cursorAt rest (p.after '*')) := by
  rw [Regex.branches]
  simp [cursorAt, Cursor.skipBlanks, Cursor.char?, Cursor.next, Branches.repeatLast,
    Branches.push, Regex.repetitionSign, Regex.skipReluctance, repeatable, unasked]
  rfl

/-- A dot that is repeated stands for any run of characters but line feeds. -/
theorem readsAs_run : ReadsAs ['.', '*'] (.repetition 0 none (.set Switches.plain.dotSet)) := by
  intro fuel b rest p unasked enough
  -- The dot is read as an atom first, and the star then takes it up again.
  match fuel, enough with
  | fuel + 2, enough =>
    let dot : Pattern := .atom (.dot ⟨p, p.after '.'⟩)
    have stands : Stands (.repetition ⟨p, (p.after '.').after '*'⟩ 0 none dot)
        (.repetition 0 none (.set Switches.plain.dotSet)) := ⟨rfl, fun _ => rfl⟩
    refine ⟨_, fuel, (p.after '.').after '*', stands, by simpa using enough, ?_⟩
    rw [List.cons_append, branches_atom (by decide)]
    exact branches_star rfl unasked fuel b _

/-- What a regular expression has for a character of a pattern, once it was read. -/
def partExpression (c : Char) : Expression :=
  if c = '*' then .repetition 0 none (.set Switches.plain.dotSet) else .char c

/-- Each character of a pattern is read as what it is spelled for. -/
theorem readsAs_part (c : Char) : ReadsAs (partSpelling c) (partExpression c) := by
  rw [partSpelling, partExpression]
  by_cases star : c = '*'
  · rw [if_pos star, if_pos star]
    exact readsAs_run
  · rw [if_neg star, if_neg star]
    exact readsAs_escaped c

/-- No spelling begins with a question mark. -/
theorem head?_spelling (pattern : List Char) :
    (pattern.flatMap partSpelling ++ ['$']).head? ≠ some '?' := by
  cases pattern with
  | nil => decide
  | cons c rest =>
    by_cases star : c = '*'
    · simp [partSpelling, star]
    -- A question mark itself is escaped, so that a backslash comes first.
    · cases special : Regex.isMeta c with
      | true => simp [partSpelling, escaped, star, special]
      | false =>
        have other : c ≠ '?' := by
          rintro rfl
          exact absurd special (by decide)
        simp [partSpelling, escaped, star, special, other]

/-- The spelling of a pattern is read character by character, up to its end. -/
theorem branches_spelling (pattern : List Char) (fuel : Nat) (b : Branches) (p : Place)
    (enough : (pattern.flatMap partSpelling ++ ['$']).length < fuel) :
    ∃ (items : List Pattern) (past : Place),
      List.Forall₂ Stands items (pattern.map partExpression ++ [.look .finish]) ∧
      Regex.branches fuel b (cursorAt (pattern.flatMap partSpelling ++ ['$']) p) =
        .ok ({ b with items := b.items ++ items }.close past, cursorAt [] past) := by
  -- Each part leaves the reader at the next one, with an item more and fuel for what is left.
  induction pattern generalizing fuel b p with
  | nil =>
    obtain ⟨item, left, past, stands, enough, reads⟩ :=
      readsAs_finish fuel b [] p (by decide) enough
    refine ⟨[item], past, .cons stands .nil, reads.trans ?_⟩
    cases left with
    | zero => exact absurd enough (Nat.lt_irrefl 0)
    | succ left => rfl
  | cons c rest ih =>
    rw [List.flatMap_cons, List.append_assoc] at enough ⊢
    obtain ⟨item, left, next, stands, enough, reads⟩ :=
      readsAs_part c fuel b _ p (head?_spelling rest) enough
    obtain ⟨items, past, stand, others⟩ := ih left (b.push item) next enough
    refine ⟨item :: items, past, .cons stands stand, ?_⟩
    rw [reads, others, Branches.push, List.append_assoc]
    rfl

/-- Items mean one after the other what each of them means. -/
theorem meanings_eq {items : List Pattern} {es : List Expression}
    (stand : List.Forall₂ Stands items es) :
    Pattern.meanings .plain items = .ok (es, .plain) := by
  -- No item changes the switches for the items after it.
  induction stand with
  | nil => rfl
  | cons stands _ ih =>
    rw [Pattern.meanings, stands.meaning]
    simp only [bind, Except.bind, ih]
    rfl

/-- Items that do not nest too deep do not do so together. -/
theorem anyTooDeep?_eq_none {items : List Pattern} {es : List Expression}
    (stand : List.Forall₂ Stands items es) (levels : Nat) :
    Pattern.anyTooDeep? (levels + 1) items = none := by
  induction stand with
  | nil => rfl
  | cons stands _ ih => rw [Pattern.anyTooDeep?, stands.shallow, ih, Option.or_none]

/-- The regular expression of a pattern, once it was read. -/
def expression (pattern : List Char) : Expression :=
  .concat (.look .start :: (pattern.map partExpression ++ [.look .finish]))

/-- The spelling of a pattern is read as its parts one after the other. -/
theorem parse_spelling (pattern : List Char) :
    ∃ (span : Regex.Span) (items : List Pattern),
      List.Forall₂ Stands items
        (.look .start :: (pattern.map partExpression ++ [.look .finish])) ∧
      Pattern.parse (spelling pattern) = .ok (.concat span items) := by
  rw [spelling_eq, List.cons_append]
  -- The sign for the start is read first, and then the parts with the sign for the end.
  obtain ⟨first, left, next, stands, enough, reads⟩ :=
    readsAs_start _ (.none .start) _ .start (head?_spelling pattern) (Nat.lt_add_one _)
  obtain ⟨items, past, stand, others⟩ :=
    branches_spelling pattern left (Branches.push (.none .start) first) next enough
  refine ⟨⟨.start, past⟩, first :: items, .cons stands stand, ?_⟩
  rw [List.singleton_append] at reads
  -- There are two items at least, so they are read as parts one after the other.
  cases items with
  | nil => simp at stand
  | cons second items =>
    change (Regex.branches _ (.none .start) (cursorAt _ .start) >>= _) = _
    rw [reads.trans others]
    rfl

/-- The spelling of every pattern is a regular expression. -/
theorem plainExpressionOf_spelling (pattern : List Char) :
    Regex.plainExpressionOf (spelling pattern) = .ok (expression pattern) := by
  -- It is read, it does not nest, and its items mean the parts of the expression.
  obtain ⟨span, items, stand, parsed⟩ := parse_spelling pattern
  have shallow : (Pattern.concat span items).checkNesting = .ok () := by
    rw [Pattern.checkNesting, Regex.maxNesting, Pattern.tooDeep?, anyTooDeep?_eq_none stand]
  have means : (Pattern.concat span items).meaning .plain = .ok (expression pattern, .plain) := by
    rw [Pattern.meaning, meanings_eq stand]
    rfl
  rw [Regex.plainExpressionOf, parsed]
  simp only [bind, Except.bind, shallow, means]
  rfl

/-! ### Matching -/

/-- What is left at a position is never longer than the text. -/
theorem length_le_of_mem_rests {rest text : List Char} {row : List Bool}
    (left : rest ∈ rests text row) : rest.length ≤ text.length := by
  -- What is left is the text itself or what is left further on.
  induction text generalizing row with
  | nil =>
    obtain ⟨-, rfl⟩ := mem_rests_nil.mp left
    exact Nat.le_refl _
  | cons c text ih =>
    rcases mem_rests_cons.mp left with ⟨-, rfl⟩ | later
    · exact Nat.le_refl _
    · exact Nat.le_succ_of_le (ih later)

/-- Rows that leave the same are the same. -/
theorem row_ext {text : List Char} {row other : List Bool} (full : row.length = text.length + 1)
    (otherFull : other.length = text.length + 1)
    (same : ∀ rest, rest ∈ rests text row ↔ rest ∈ rests text other) : row = other := by
  -- A position is reached where what is left behind it is among what the row leaves.
  induction text generalizing row other with
  | nil =>
    obtain ⟨last, rfl⟩ := List.length_eq_one_iff.mp full
    obtain ⟨otherLast, rfl⟩ := List.length_eq_one_iff.mp otherFull
    have ends := same []
    simp only [mem_rests_nil, List.headD_cons, and_true] at ends
    rw [Bool.eq_iff_iff.mpr ends]
  | cons c text ih =>
    match row, other, full, otherFull with
    | here :: row, otherHere :: other, full, otherFull =>
      simp only [mem_rests_cons, List.headD_cons, List.tail_cons] at same
      -- Only the position in front leaves the whole text.
      have whole : ∀ row, c :: text ∉ rests text row := by
        intro row left
        exact Nat.not_succ_le_self _ (length_le_of_mem_rests left)
      have front : here = otherHere := by
        have ends := same (c :: text)
        simp only [and_true, whole, or_false] at ends
        exact Bool.eq_iff_iff.mpr ends
      subst front
      congr 1
      apply ih (by simpa using full) (by simpa using otherFull)
      intro rest
      by_cases all : rest = c :: text
      · simp [all, whole]
      · simpa [all] using same rest

/-- What is left at the positions of two rows is what is left at those of either. -/
theorem mem_rests_join {rest text : List Char} {row other : List Bool}
    (same : row.length = other.length) :
    rest ∈ rests text (Regex.join row other) ↔ rest ∈ rests text row ∨ rest ∈ rests text other := by
  -- Both rows are gone along together with the text.
  induction text generalizing row other with
  | nil =>
    match row, other, same with
    | [], [], _ => simp [Regex.join]
    | here :: row, otherHere :: other, _ =>
      simp [Regex.join, mem_rests_nil, or_and_right]
  | cons c text ih =>
    match row, other, same with
    | [], [], _ => simp [Regex.join]
    | here :: row, otherHere :: other, same =>
      have shorter : row.length = other.length := by simpa using same
      have joined : Regex.join (here :: row) (otherHere :: other) =
          (here || otherHere) :: Regex.join row other := rfl
      rw [joined]
      simp only [mem_rests_cons, List.headD_cons, List.tail_cons, ih shorter, Bool.or_eq_true]
      tauto

/-- A step over a character leaves the number of positions as it is. -/
theorem length_afterChar {has : Char → Bool} {text : List Char} {row : List Bool}
    (full : row.length = text.length + 1) :
    (Regex.afterChar has text row).length = text.length + 1 := by
  simp [Regex.afterChar, full]

/-- Repeating a step that leaves the number of positions as it is leaves it as it is. -/
theorem length_repeatUpTo {step : List Bool → List Bool} {size : Nat}
    (keeps : ∀ row, row.length = size → (step row).length = size) (count : Nat) {row : List Bool}
    (full : row.length = size) : (Regex.repeatUpTo step count row).length = size := by
  -- The rows of all repetitions are joined, and all are equally long.
  induction count generalizing row with
  | zero => exact full
  | succ count ih => simp [Regex.repeatUpTo, Regex.join, ih (keeps row full), full]

/-- Steps over characters take a run of them off what was left. -/
theorem mem_rests_repeatUpTo {has : Char → Bool} {rest text : List Char} (count : Nat)
    {row : List Bool} (full : row.length = text.length + 1) :
    rest ∈ rests text (Regex.repeatUpTo (Regex.afterChar has text) count row) ↔
      ∃ run, run.length ≤ count ∧ (∀ d ∈ run, has d = true) ∧ run ++ rest ∈ rests text row := by
  -- A run is empty, or its first character is what the next step goes over.
  induction count generalizing row with
  | zero =>
    constructor
    · intro left
      exact ⟨[], Nat.le_refl 0, by simp, left⟩
    · rintro ⟨run, short, _, left⟩
      rw [List.length_eq_zero_iff.mp (Nat.le_zero.mp short)] at left
      exact left
  | succ count ih =>
    have stepped : (Regex.afterChar has text row).length = text.length + 1 := length_afterChar full
    have sizes : row.length = (Regex.repeatUpTo (Regex.afterChar has text) count
        (Regex.afterChar has text row)).length := by
      rw [length_repeatUpTo (fun _ => length_afterChar) count stepped, full]
    -- The row is joined with what the other repetitions reach from the next positions.
    rw [Regex.repeatUpTo, mem_rests_join sizes, ih stepped]
    simp only [Regex.afterChar, mem_rests_advance]
    constructor
    · rintro (left | ⟨run, short, passes, d, passed, left⟩)
      · exact ⟨[], Nat.zero_le _, by simp, left⟩
      · exact ⟨d :: run, by simpa using short, by simpa [passed] using passes, left⟩
    · rintro ⟨run, short, passes, left⟩
      cases run with
      | nil => exact .inl left
      | cons d run =>
        simp only [List.forall_mem_cons] at passes
        exact .inr ⟨run, by simpa using short, passes.2, d, passes.1, left⟩

/-- A repeated dot reaches what a star reaches. -/
theorem reach_star {text : List Char} {row : List Bool} (full : row.length = text.length + 1) :
    (partExpression '*').reach text row = afterStar false text row := by
  have reached : (partExpression '*').reach text row =
      Regex.repeatUpTo (Regex.afterChar Switches.plain.dotSet.has text) (text.length + 1) row := rfl
  rw [reached]
  apply row_ext (length_repeatUpTo (fun _ => length_afterChar) _ full)
    (length_afterStar false text row)
  intro rest
  rw [mem_rests_repeatUpTo _ full, mem_rests_afterStar]
  -- The dot stands for every character but the line feed.
  have dot : ∀ run : List Char, (∀ d ∈ run, Switches.plain.dotSet.has d = true) ↔ '\n' ∉ run := by
    intro run
    constructor
    · intro passes lineFeed
      exact absurd (passes _ lineFeed) (by decide)
    · intro oneLine d member
      have other : d ≠ '\n' := by
        rintro rfl
        exact oneLine member
      simp [Switches.dotSet, Switches.plain, other]
  simp only [dot, Bool.false_eq_true, false_and, false_or]
  constructor
  · rintro ⟨run, -, oneLine, left⟩
    exact ⟨run, oneLine, left⟩
  · rintro ⟨run, oneLine, left⟩
    -- There are as many repetitions as a run within the text can need.
    have bound := length_le_of_mem_rests left
    rw [List.length_append] at bound
    exact ⟨run, by omega, oneLine, left⟩

/-- The parts of a regular expression reach what the pattern reaches. -/
theorem reachAll_parts (pattern : List Char) {text : List Char} {row : List Bool}
    (full : row.length = text.length + 1) :
    Expression.reachAll text (pattern.map partExpression) row = reachedAfter text pattern row := by
  -- Each part keeps the number of positions, so that the next one can be compared.
  induction pattern generalizing row with
  | nil => rfl
  | cons c pattern ih =>
    rw [List.map_cons, Expression.reachAll, reachedAfter]
    by_cases star : c = '*'
    · subst star
      rw [reach_star full, if_pos rfl]
      exact ih (length_afterStar false text row)
    · rw [if_neg star, partExpression, if_neg star]
      exact ih (length_afterChar full)

/-- Only the first position has nothing before it. -/
theorem atLook_start (text : List Char) :
    Regex.atLook .start text (true :: text.map fun _ => true) = start text := by
  -- Behind the first position there is always a character before.
  have later : ∀ (d : Char) (text : List Char),
      List.zipWith (fun here around => here && Regex.Look.start.holds around)
        (true :: text.map fun _ => true) (Regex.surroundings (some d) text) =
        false :: text.map fun _ => false := by
    intro d text
    induction text generalizing d with
    | nil => rfl
    | cons c text ih =>
      rw [List.map_cons, Regex.surroundings, List.zipWith_cons_cons, ih c]
      rfl
  cases text with
  | nil => rfl
  | cons c text =>
    rw [Regex.atLook, List.map_cons, Regex.surroundings, List.zipWith_cons_cons, later c text]
    rfl

/-- Only the last position has nothing after it. -/
theorem any_atLook_finish {text : List Char} {row : List Bool}
    (full : row.length = text.length + 1) :
    (Regex.atLook .finish text row).any id = (row.getLast? == some true) := by
  -- What comes before the positions does not matter.
  have general : ∀ before, (List.zipWith (fun here around => here && Regex.Look.finish.holds around)
      row (Regex.surroundings before text)).any id = (row.getLast? == some true) := by
    induction text generalizing row with
    | nil =>
      intro before
      obtain ⟨last, rfl⟩ := List.length_eq_one_iff.mp full
      cases last <;> rfl
    | cons c text ih =>
      intro before
      match row, full with
      | here :: next :: row, full =>
        have front : (here && Regex.Look.finish.holds ⟨before, some c⟩) = false := Bool.and_false _
        rw [Regex.surroundings, List.zipWith_cons_cons, List.any_cons, front,
          List.getLast?_cons_cons, ih (by simpa using full) (some c)]
        rfl
  exact general none

/-- Expressions are tried one after the other. -/
theorem reachAll_append (text : List Char) (es others : List Expression) (row : List Bool) :
    Expression.reachAll text (es ++ others) row =
      Expression.reachAll text others (Expression.reachAll text es row) := by
  induction es generalizing row with
  | nil => rfl
  | cons e es ih => exact ih _

/-- The regular expression of a pattern matches what the pattern matches. -/
theorem occursIn_expression (pattern text : List Char) :
    (expression pattern).occursIn text = isMatch pattern text := by
  have full : (start text).length = text.length + 1 := by simp [start]
  -- The start lets only the first position through, and the parts go on from there.
  have reached : (expression pattern).reach text (true :: text.map fun _ => true) =
      Regex.atLook .finish text (reachedAfter text pattern (start text)) := by
    rw [expression, Expression.reach, Expression.reachAll, Expression.reach, atLook_start,
      reachAll_append, reachAll_parts pattern full]
    rfl
  rw [Expression.occursIn, reached, any_atLook_finish (length_reachedAfter full), isMatch]

end Glob

end ToolPolicy
