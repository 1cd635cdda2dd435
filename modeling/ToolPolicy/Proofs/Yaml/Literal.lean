import ToolPolicy.Proofs.Yaml.Quoted
import ToolPolicy.Yaml.Token.Block

/-! Literal blocks read back as the texts that were written as such. -/

namespace ToolPolicy.Yaml

open Block

/-! ### The lines of a block -/

/-- Within a line the body of a block is the text. -/
theorem literalBody_append (indent : Nat) {line : List Char}
    (inside : ∀ c ∈ line, isBreak c = false)
    (rest : List Char) :
    literalBody indent false (line ++ rest) = line ++ literalBody indent false rest := by
  -- Within a line no break comes up, so that nothing is indented.
  induction line with
  | nil => rfl
  | cons c line ih =>
    obtain ⟨first, others⟩ := List.forall_mem_cons.mp inside
    rw [List.cons_append, literalBody, if_neg (by simp [first]), ih others]
    rfl

/-- Line breaks stand for themselves, and the next line is indented. -/
theorem literalBody_breaks (indent : Nat) (broken : Bool) {breaks : List Char} (rest : List Char)
    (some : breaks ≠ []) (ends : ∀ c ∈ breaks, isBreak c = true) :
    literalBody indent broken (breaks ++ rest) = breaks ++ literalBody indent true rest := by
  induction breaks generalizing broken with
  | nil => exact absurd rfl some
  | cons b breaks ih =>
    obtain ⟨first, others⟩ := List.forall_mem_cons.mp ends
    rw [List.cons_append, literalBody, if_pos first]
    -- After the first break every other one finds that a break came before it.
    cases breaks with
    | nil => rfl
    | cons b' breaks =>
      rw [ih true (by simp) others]
      rfl

/-- Line breaks alone are written as they are. -/
theorem literalBody_of_breaks (indent : Nat) (broken : Bool) {breaks : List Char}
    (ends : ∀ b ∈ breaks, isBreak b = true) : literalBody indent broken breaks = breaks := by
  cases breaks with
  | nil => rfl
  | cons b more =>
    simpa [literalBody] using literalBody_breaks indent broken [] (List.cons_ne_nil b more) ends

/-- A line that is not empty is indented. -/
theorem literalBody_indented (indent : Nat) {c : Char} {rest : List Char}
    (inside : isBreak c = false) :
    literalBody indent true (c :: rest) =
      blanks indent ++ literalBody indent false (c :: rest) := by
  simp [literalBody, inside]

/-- The line break that ends a block whose text has none at its end. -/
def lineEnd (cs : List Char) : List Char := if cs.getLast?.any isBreak then [] else ['\n']

/-- The text that is left of a block. -/
structure LiteralRest (cs : List Char) : Prop where
  nonempty : cs ≠ []
  printable : ∀ c ∈ cs, isPrintable c = true
  before : hasBlankBeforeBreak cs = false
  last : cs.getLast? ≠ some ' '

/-- What comes later is the text of a block as well. -/
theorem LiteralRest.drop {front rest : List Char} (literal : LiteralRest (front ++ rest))
    (nonempty : rest ≠ []) : LiteralRest rest := by
  refine ⟨nonempty, fun c member => literal.printable c (List.mem_append_right _ member),
    hasBlankBeforeBreak_append literal.before, ?_⟩
  have last := literal.last
  simpa [List.getLast?_append, List.getLast?_eq_some_getLast nonempty] using last

/-- A line has more than blanks. -/
theorem LiteralRest.exists_blanks {cs : List Char} (literal : LiteralRest cs)
    (inside : ∀ c ∈ cs.head?, isBreak c = false) :
    ∃ n c rest, cs = blanks n ++ c :: rest ∧ c ≠ ' ' ∧ isBreak c = false := by
  obtain ⟨n, rest, rfl, next⟩ := Yaml.exists_blanks cs
  -- A text for a literal block neither is empty nor ends with a blank.
  cases rest with
  | nil =>
    cases n with
    | zero => exact absurd rfl literal.nonempty
    | succ n => exact absurd (by simp [blanks, List.replicate_succ']) literal.last
  | cons c rest =>
    refine ⟨n, c, rest, rfl, by simpa using next, ?_⟩
    cases n with
    | zero => exact inside c rfl
    | succ n =>
      have split : blanks (n + 1) ++ c :: rest = blanks n ++ ' ' :: c :: rest := by
        simp [blanks, List.replicate_succ']
      -- No blank stands before a line break.
      have before := literal.before
      rw [split] at before
      have none := hasBlankBeforeBreak_append before
      rw [hasBlankBeforeBreak, Bool.or_eq_false_iff] at none
      simpa using none.1

/-- A line is written after its indentation and the blanks that it starts with. -/
theorem LiteralRest.exists_indentation (n : Nat) {cs : List Char} (literal : LiteralRest cs)
    (inside : ∀ c ∈ cs.head?, isBreak c = false) :
    ∃ count inner, literalBody n true cs = blanks (n + count) ++ inner ∧
      literalBody n false cs = blanks count ++ inner ∧ (∀ tail, StartsSolid (inner ++ tail)) ∧
      (cs.head? ≠ some ' ' → count = 0) := by
  -- The line starts with its own blanks, and there is a character behind them that is none.
  obtain ⟨count, d, back, rfl, unspaced, unbroken⟩ := literal.exists_blanks inside
  have solid : IsSolid d :=
    isSolid_of_isPrintable (literal.printable d (by simp)) unspaced unbroken
  have line : literalBody n false (blanks count ++ d :: back) =
      blanks count ++ literalBody n false (d :: back) :=
    literalBody_append n (by simp [blanks, isBreak]) _
  refine ⟨count, literalBody n false (d :: back), ?_, line, fun tail => ?_, fun first => ?_⟩
  · obtain ⟨c, more, shape⟩ := List.exists_cons_of_ne_nil literal.nonempty
    rw [shape] at inside line ⊢
    rw [literalBody_indented n (inside c rfl), line, ← List.append_assoc, blanks, blanks,
      List.replicate_append_replicate]
    rfl
  · simpa [literalBody, unbroken] using solid
  · cases count with
    | zero => rfl
    | succ count => exact absurd rfl first

/-! ### Gaps -/

/-- The blanks before another character are counted. -/
theorem takeWhile_blanks {count : Nat} {rest : List Char} (solid : StartsSolid rest) :
    (blanks count ++ rest).takeWhile (· == ' ') = blanks count := by
  rw [List.takeWhile_append_of_pos (by simp [blanks])]
  cases rest with
  | nil => simp
  | cons c rest => simp [((startsSolid_cons c rest).mp solid).ne_space]

/-- Some of the blanks are gone over. -/
theorem skip_blanks {due count : Nat} (some : due ≤ count) (rest : List Char) (m : Mark) :
    (⟨blanks count ++ rest, m⟩ : Cursor).skip due =
      ⟨blanks (count - due) ++ rest, m.advance due⟩ := by
  obtain ⟨left, rfl⟩ := Nat.exists_eq_add_of_le some
  have split : blanks (due + left) = blanks due ++ blanks left :=
    List.replicate_append_replicate.symm
  have skipped := Cursor.skip_append (blanks due) (blanks left ++ rest) m
  rw [length_blanks] at skipped
  rw [split, List.append_assoc, skipped, Nat.add_sub_cancel_left]

/-- No line ends at blanks before another character. -/
theorem peek_blanks (count : Nat) (m : Mark) {rest : List Char} (solid : StartsSolid rest) :
    (⟨blanks count ++ rest, m⟩ : Cursor).peek.any isBreak = false := by
  cases count with
  | succ count => rfl
  | zero =>
    cases rest with
    | nil => rfl
    | cons c rest => exact (solid c rfl).2

/-- The indentation of a line is gone over as far as it belongs to the block. -/
theorem skipGap_indentation (n count : Nat) (fuel : List Char) (column : Nat) (breaks : List Char)
    (finish m : Mark) {rest : List Char} (start : m.column = 0) (solid : StartsSolid rest) :
    skipGap (some n) fuel column breaks finish ⟨blanks count ++ rest, m⟩ =
      ⟨max column (min count n), breaks, finish,
        ⟨blanks (count - n) ++ rest, m.advance (min count n)⟩⟩ := by
  -- Blanks beyond the column of the block are left to the line.
  have left : count - min count n = count - n := by omega
  rw [skipGap.eq_def]
  simp only [takeWhile_blanks solid, length_blanks, start, Nat.sub_zero,
    skip_blanks (Nat.min_le_left count n), left, peek_blanks _ _ solid, Mark.column_advance,
    Nat.zero_add, Bool.false_eq_true, if_false]
  cases fuel <;> rfl

/-- The indentation of the first line is gone over as far as it goes. -/
theorem skipGap_first (count : Nat) (fuel : List Char) (finish m : Mark) {rest : List Char}
    (start : m.column = 0) (solid : StartsSolid rest) :
    skipGap none fuel 0 [] finish ⟨blanks count ++ rest, m⟩ =
      ⟨count, [], finish, ⟨rest, m.advance count⟩⟩ := by
  have inside := peek_blanks 0 (m.advance count) solid
  rw [blanks_zero, List.nil_append] at inside
  rw [skipGap.eq_def]
  simp only [takeWhile_blanks solid, length_blanks, skip_blanks (Nat.le_refl count), Nat.sub_self,
    blanks_zero, List.nil_append, inside, Mark.column_advance, start, Nat.zero_add, Nat.zero_max,
    Bool.false_eq_true, if_false]
  cases fuel <;> rfl

/-- An empty line is gone over, and its break is kept. -/
theorem skipGap_emptyLine (n : Nat) (fuel : List Char) (head : Char) (column : Nat)
    (breaks : List Char) (finish m : Mark) {b : Char} {rest : List Char} (start : m.column = 0)
    (ends : isBreak b = true) (printable : isPrintable b = true) :
    skipGap (some n) (head :: fuel) column breaks finish ⟨b :: rest, m⟩ =
      skipGap (some n) fuel column (breaks ++ [b]) (m.nextLine 1) ⟨rest, m.nextLine 1⟩ := by
  -- A line that is empty has no indentation to go over.
  have none : (b :: rest).takeWhile (· == ' ') = [] := by
    rw [List.takeWhile_cons_of_neg]
    intro space
    rw [beq_iff_eq] at space
    subst space
    cases ends
  rw [skipGap]
  simp only [none, List.length_nil, Nat.zero_min, Cursor.skip_zero, start, Nat.max_zero,
    Cursor.peek_cons, Option.any_some, ends, if_true, Cursor.skipBreak_cons ends printable,
    Cursor.lineBreak_cons ends printable]

/-- Empty lines and the indentation of the next line are gone over. -/
theorem skipGap_lines (n count : Nat) (fuel : List Char) (column : Nat) (breaks : List Char)
    (finish m : Mark) {lines rest : List Char} (enough : lines.length ≤ fuel.length)
    (start : m.column = 0) (empty : ∀ b ∈ lines, isBreak b = true ∧ isPrintable b = true)
    (solid : StartsSolid rest) :
    ∃ finish' after, skipGap (some n) fuel column breaks finish
        ⟨lines ++ (blanks count ++ rest), m⟩ =
          ⟨max column (min count n), breaks ++ lines, finish',
            ⟨blanks (count - n) ++ rest, after⟩⟩ ∧
      after.column = min count n ∧ m.line ≤ after.line := by
  -- The line breaks are collected one by one, and the last line takes its indentation.
  induction lines generalizing fuel column breaks finish m with
  | nil =>
    refine ⟨finish, m.advance (min count n), ?_, by simp [start], le_rfl⟩
    rw [List.nil_append, skipGap_indentation n count fuel column breaks finish m start solid,
      List.append_nil]
  | cons b lines ih =>
    obtain ⟨⟨ends, printable⟩, others⟩ := List.forall_mem_cons.mp empty
    cases fuel with
    | nil => cases enough
    | cons head fuel =>
      obtain ⟨finish', after, read, column', line⟩ := ih fuel column (breaks ++ [b]) (m.nextLine 1)
        (m.nextLine 1) (by simpa using enough) rfl others
      refine ⟨finish', after, ?_, column', by simp at line; omega⟩
      rw [List.cons_append,
        skipGap_emptyLine n fuel head column breaks finish m start ends printable, read,
        List.append_assoc, List.singleton_append]

/-- No tab stands where a gap ends. -/
theorem isAt_tab (count : Nat) (m : Mark) {rest : List Char} (solid : StartsSolid rest) :
    (⟨blanks count ++ rest, m⟩ : Cursor).isAt '\t' = false := by
  cases count with
  | succ count => rfl
  | zero =>
    cases rest with
    | nil => rfl
    | cons c rest =>
      obtain ⟨blank, _⟩ := solid c rfl
      simp only [blanks_zero, List.nil_append, Cursor.isAt, Cursor.peek_cons]
      rw [Option.some_beq_some, beq_eq_false_iff_ne]
      rintro rfl
      cases blank

/-- Empty lines and the indentation of the next line are a gap. -/
theorem readGap_lines (since m : Mark) (n count : Nat) {lines rest : List Char}
    (start : m.column = 0) (empty : ∀ b ∈ lines, isBreak b = true ∧ isPrintable b = true)
    (solid : StartsSolid rest) :
    ∃ gap after, readGap since (some n) ⟨lines ++ (blanks count ++ rest), m⟩ = .ok gap ∧
      gap.breaks = lines ∧ gap.cursor = ⟨blanks (count - n) ++ rest, after⟩ ∧
      after.column = min count n ∧ m.line ≤ after.line := by
  -- The gap ends at a solid character or at blanks of the line, and never at a tab.
  obtain ⟨finish, after, read, column, line⟩ := skipGap_lines n count
    (lines ++ (blanks count ++ rest)) 0 [] m m (by simp) start empty solid
  refine ⟨⟨max 0 (min count n), lines, finish, ⟨blanks (count - n) ++ rest, after⟩⟩, after, ?_, rfl,
    rfl, column, line⟩
  rw [readGap]
  simp only [read, isAt_tab _ _ solid, Bool.and_false, Bool.false_eq_true, if_false]
  rfl

/-! ### Bodies -/

/-- A line is read with the line breaks after it, and with the indentation of the next line. -/
theorem readLines_line (since : Mark) (n : Nat) (fuel : List Char) (head : Char) (b : Body)
    {line ends rest : List Char} {e : Char} {count : Nat} {m : Mark}
    (cursor : b.cursor = ⟨line ++ e :: (ends ++ (blanks count ++ rest)), m⟩) (inside : m.column = n)
    (unbroken : ∀ c ∈ line, isBreak c = false)
    (printable : ∀ c ∈ e :: ends, isBreak c = true ∧ isPrintable c = true)
    (solid : StartsSolid rest) :
    ∃ b' after, readLines since false n (head :: fuel) b = readLines since false n fuel b' ∧
      b'.text.reverse = b.text.reverse ++ (b.lastBreak ++ b.emptyLines) ++ line ∧
      b'.lastBreak = [e] ∧ b'.emptyLines = ends ∧
      b'.cursor = ⟨blanks (count - n) ++ rest, after⟩ ∧ after.column = min count n ∧
      m.line < after.line := by
  obtain ⟨⟨ending, printable_⟩, others⟩ := List.forall_mem_cons.mp printable
  -- The line is taken whole, and the gap after it leads into the next line.
  have spanned : (⟨line ++ e :: (ends ++ (blanks count ++ rest)), m⟩ : Cursor).span
      (fun ch => !isBreak ch) =
      (line, ⟨e :: (ends ++ (blanks count ++ rest)), m.advance line.length⟩) :=
    Cursor.span_append _ m (fun c member => by simp [unbroken c member]) (by simp [ending])
  obtain ⟨gap, after, read, breaks, place, column, later⟩ := readGap_lines since
    ((m.advance line.length).nextLine 1) n count rfl others solid
  refine ⟨⟨line.reverse ++ ((b.lastBreak ++ b.emptyLines).reverse ++ b.text), [e], ends,
    (⟨line ++ e :: (ends ++ (blanks count ++ rest)), m⟩ : Cursor).peek.any isBlank, gap.finish,
    gap.cursor⟩, after, ?_, by simp, rfl, rfl, place, column, by simp at later; omega⟩
  rw [readLines, cursor]
  simp only [inside, ne_eq, not_true, decide_false, Bool.false_or, between, Bool.false_and,
    Bool.false_eq_true, if_false]
  rw [if_neg (by simp)]
  simp only [spanned, Cursor.skipBreak_cons ending printable_,
    Cursor.lineBreak_cons ending printable_, read, breaks]

/-- A line break is only added where there is none. -/
theorem lineEnd_append (front : List Char) {back : List Char} (nonempty : back ≠ []) :
    lineEnd (front ++ back) = lineEnd back := by
  simp [lineEnd, List.getLast?_append, List.getLast?_eq_some_getLast nonempty]

/-- How the text of a block ends: with a line, whose break is added, or with line breaks, of which
the first one ends the last line. -/
structure EndsAs (cs front lastBreak emptyLines : List Char) : Prop where
  last : ∃ c, front.getLast? = some c ∧ isBreak c = false
  text : cs = front ∧ lastBreak = ['\n'] ∧ emptyLines = [] ∨
    (∃ b, cs = front ++ b :: emptyLines ∧ lastBreak = [b]) ∧
      ∀ b ∈ lastBreak ++ emptyLines, isBreak b = true

/-- A line, with the breaks after it or with one that is added, ends a block. -/
theorem exists_endsAs {line breaks : List Char} (nonempty : line ≠ [])
    (unbroken : ∀ c ∈ line, isBreak c = false)
    (ends : ∀ b ∈ breaks, isBreak b = true ∧ isPrintable b = true) :
    ∃ e more, breaks ++ lineEnd (line ++ breaks) = e :: more ∧
      EndsAs (line ++ breaks) line [e] more ∧
      ∀ b ∈ e :: more, isBreak b = true ∧ isPrintable b = true := by
  have last : ∃ c, line.getLast? = some c ∧ isBreak c = false :=
    ⟨line.getLast nonempty, List.getLast?_eq_some_getLast nonempty,
      unbroken _ (List.getLast_mem nonempty)⟩
  cases breaks with
  | nil =>
    -- A text that does not end with a line break is given one, which its hint takes back.
    have added : lineEnd (line ++ []) = ['\n'] := by
      obtain ⟨c, end_, inside⟩ := last
      simp [lineEnd, end_, inside]
    exact ⟨'\n', [], by rw [added]; rfl, ⟨last, .inl ⟨by simp, rfl, rfl⟩⟩,
      List.forall_mem_singleton.mpr ⟨rfl, rfl⟩⟩
  | cons e more =>
    have none : lineEnd (line ++ e :: more) = [] := by
      have ending := (ends _ (List.getLast_mem (List.cons_ne_nil e more))).1
      rw [lineEnd_append _ (by simp)]
      simp [lineEnd, List.getLast?_eq_some_getLast, ending]
    exact ⟨e, more, by rw [none, List.append_nil],
      ⟨last, .inr ⟨⟨e, rfl, rfl⟩, fun b member => (ends b member).1⟩⟩, ends⟩

/-- How a text ends does not depend on the lines before. -/
theorem EndsAs.append (lead : List Char) {cs front lastBreak emptyLines : List Char}
    (ends : EndsAs cs front lastBreak emptyLines) :
    EndsAs (lead ++ cs) (lead ++ front) lastBreak emptyLines := by
  obtain ⟨⟨c, last, inside⟩, text⟩ := ends
  refine ⟨⟨c, by rw [List.getLast?_append, last]; rfl, inside⟩, ?_⟩
  -- The break that ends the text may be an added one or one of its own.
  rcases text with ⟨whole, added⟩ | ⟨⟨b, whole, first⟩, broken⟩
  · exact .inl ⟨by rw [whole], added⟩
  · exact .inr ⟨⟨b, by rw [whole, List.append_assoc], first⟩, broken⟩

/-- No line is read left of the block. -/
theorem readLines_stop (since : Mark) (n : Nat) (fuel : List Char) {b : Body}
    (left : b.cursor.mark.column ≠ n) : readLines since false n fuel b = .ok b := by
  cases fuel with
  | nil => rfl
  | cons _ fuel =>
    rw [readLines]
    simp [left]

/-- A text that starts with no line break starts with a line. -/
theorem LiteralRest.line_ne_nil {line breaks more : List Char}
    (literal : LiteralRest (line ++ (breaks ++ more)))
    (starts : ∀ c ∈ (line ++ (breaks ++ more)).head?, isBreak c = false)
    (stop : ∀ c ∈ (breaks ++ more).head?, isBreak c = true) : line ≠ [] := by
  -- Without a line the breaks would come first.
  rintro rfl
  obtain ⟨c, rest, shape⟩ := List.exists_cons_of_ne_nil literal.nonempty
  rw [List.nil_append] at shape starts
  rw [shape] at starts stop
  have inside := starts c rfl
  rw [stop c rfl] at inside
  cases inside

/-- The last line of a block is read with the breaks that end it. -/
theorem readLines_last (since : Mark) (n : Nat) (fuel : List Char) (head : Char) (b : Body)
    {line breaks rest : List Char} {m : Mark} {k : Nat} (literal : LiteralRest (line ++ breaks))
    (nonempty : line ≠ []) (unbroken : ∀ c ∈ line, isBreak c = false)
    (ends : ∀ b ∈ breaks, isBreak b = true) (left : k < n) (solid : StartsSolid rest)
    (inside : m.column = n)
    (cursor : b.cursor = ⟨literalBody n false (line ++ breaks) ++
      (lineEnd (line ++ breaks) ++ (blanks k ++ rest)), m⟩) :
    ∃ b' after, readLines since false n (head :: fuel) b = .ok b' ∧
      b'.text.reverse = b.text.reverse ++ (b.lastBreak ++ b.emptyLines) ++ line ∧
      EndsAs (line ++ breaks) line b'.lastBreak b'.emptyLines ∧ b'.cursor = ⟨rest, after⟩ ∧
      after.column = k ∧ m.line < after.line := by
  obtain ⟨e, more, text, endsAs, printable⟩ := exists_endsAs nonempty unbroken
    fun b member => ⟨ends b member, literal.printable b (List.mem_append_right _ member)⟩
  rw [literalBody_append n unbroken, literalBody_of_breaks n false ends, List.append_assoc,
    ← List.append_assoc breaks, text, List.cons_append] at cursor
  obtain ⟨b', after, read, text', lastBreak, emptyLines, place, column, later⟩ :=
    readLines_line since n fuel head b cursor inside unbroken printable solid
  -- What follows the block stands left of it, so the reader stops there.
  have due : k - n = 0 := by omega
  have reached : after.column = k := by omega
  rw [due, blanks_zero, List.nil_append] at place
  have stopped : readLines since false n fuel b' = .ok b' :=
    readLines_stop since n fuel (by rw [place]; change after.column ≠ n; omega)
  exact ⟨b', after, read.trans stopped, text', by rwa [lastBreak, emptyLines], place, reached,
    later⟩

/-- A line with breaks after it leads to the next line of the text. -/
theorem readLines_next (since : Mark) (n : Nat) (fuel : List Char) (head : Char) (b : Body)
    {line breaks cs rest : List Char} {e : Char} {m : Mark} {k : Nat}
    (literal : LiteralRest (line ++ (e :: breaks ++ cs))) (nonempty : cs ≠ [])
    (unbroken : ∀ c ∈ line, isBreak c = false) (ends : ∀ b ∈ e :: breaks, isBreak b = true)
    (next : ∀ c ∈ cs.head?, isBreak c = false) (inside : m.column = n)
    (cursor : b.cursor = ⟨literalBody n false (line ++ (e :: breaks ++ cs)) ++
      (lineEnd (line ++ (e :: breaks ++ cs)) ++ (blanks k ++ rest)), m⟩) :
    ∃ b' after, readLines since false n (head :: fuel) b = readLines since false n fuel b' ∧
      b'.text.reverse = b.text.reverse ++ (b.lastBreak ++ b.emptyLines) ++ line ∧
      b'.lastBreak = [e] ∧ b'.emptyLines = breaks ∧
      b'.cursor = ⟨literalBody n false cs ++ (lineEnd cs ++ (blanks k ++ rest)), after⟩ ∧
      after.column = n ∧ m.line < after.line := by
  have rested : LiteralRest cs := by
    rw [← List.append_assoc] at literal
    exact literal.drop nonempty
  obtain ⟨count, inner, indented, plain, solid, -⟩ := rested.exists_indentation n next
  have printable : ∀ c ∈ e :: breaks, isBreak c = true ∧ isPrintable c = true :=
    fun b member => ⟨ends b member,
      literal.printable b (List.mem_append_right _ (List.mem_append_left _ member))⟩
  -- The end of the text is that of what is behind this line.
  have sameEnd : lineEnd (line ++ (e :: breaks ++ cs)) = lineEnd cs := by
    rw [← List.append_assoc, lineEnd_append _ nonempty]
  have split : b.cursor = ⟨line ++ e :: (breaks ++ (blanks (n + count) ++
      (inner ++ (lineEnd cs ++ (blanks k ++ rest))))), m⟩ := by
    rw [cursor, sameEnd, literalBody_append n unbroken,
      literalBody_breaks n false _ (List.cons_ne_nil e breaks) ends, indented]
    simp only [List.append_assoc, List.cons_append]
  -- Of the blanks before the line the indentation is gone over, and the others belong to the text.
  obtain ⟨b', after, read, text, lastBreak, emptyLines, place, column, later⟩ :=
    readLines_line since n fuel head b split inside unbroken printable (solid _)
  rw [Nat.add_sub_cancel_left, ← List.append_assoc (blanks count), ← plain] at place
  exact ⟨b', after, read, text, lastBreak, emptyLines, place, by omega, later⟩

/-- The lines of a block are read to its end. -/
theorem readLines_eq (since : Mark) (n : Nat) (fuel : List Char) (b : Body) {cs rest : List Char}
    {m : Mark} {k : Nat} (literal : LiteralRest cs) (starts : ∀ c ∈ cs.head?, isBreak c = false)
    (left : k < n) (solid : StartsSolid rest) (inside : m.column = n)
    (cursor : b.cursor = ⟨literalBody n false cs ++ (lineEnd cs ++ (blanks k ++ rest)), m⟩)
    (enough : cs.length ≤ fuel.length) :
    ∃ b' front after, readLines since false n fuel b = .ok b' ∧
      b'.text.reverse = b.text.reverse ++ (b.lastBreak ++ b.emptyLines) ++ front ∧
      EndsAs cs front b'.lastBreak b'.emptyLines ∧ b'.cursor = ⟨rest, after⟩ ∧
      after.column = k ∧ m.line < after.line := by
  -- Each round of the reader takes one line of the text and the breaks after it.
  induction fuel generalizing b cs m with
  | nil => exact absurd (List.eq_nil_of_length_eq_zero (Nat.le_zero.mp enough)) literal.nonempty
  | cons head fuel ih =>
    obtain ⟨line, more, rfl, unbroken, stop⟩ := exists_prefix (fun c => !isBreak c) cs
    obtain ⟨breaks, more, rfl, ends, next⟩ := exists_prefix isBreak more
    replace unbroken : ∀ c ∈ line, isBreak c = false := fun c member => by
      simpa using unbroken c member
    replace stop : ∀ c ∈ (breaks ++ more).head?, isBreak c = true := fun c member => by
      simpa using stop c member
    have nonempty : line ≠ [] := literal.line_ne_nil starts stop
    cases more with
    | nil =>
      rw [List.append_nil] at *
      obtain ⟨b', after, read⟩ :=
        readLines_last since n fuel head b literal nonempty unbroken ends left solid inside cursor
      exact ⟨b', line, after, read⟩
    -- The next line starts behind the breaks, and the induction reads from there.
    | cons c more =>
      obtain ⟨e, breaks, rfl⟩ : ∃ e rest, breaks = e :: rest := by
        cases breaks with
        | nil => simp [next c rfl] at stop
        | cons e breaks => exact ⟨e, breaks, rfl⟩
      have rested : LiteralRest (c :: more) := by
        rw [← List.append_assoc] at literal
        exact literal.drop (List.cons_ne_nil c more)
      obtain ⟨b₁, start, read, text, lastBreak, emptyLines, place, column, later⟩ :=
        readLines_next since n fuel head b literal
          (List.cons_ne_nil c more) unbroken ends next inside
          cursor
      obtain ⟨b₂, front, after, read', text', endsAs, place', column', later'⟩ :=
        ih b₁ rested next column place (by simp at enough ⊢; omega)
      refine ⟨b₂, line ++ (e :: breaks ++ front), after, read.trans read', ?_, ?_, place',
        column', by omega⟩
      · rw [text', text, lastBreak, emptyLines]
        simp
      · simpa using endsAs.append (line ++ e :: breaks)

/-! ### Headers -/

/-- What a chomping sign asks for. -/
def hintChomp : List Char → Chomp
  | ['-'] => .none
  | ['+'] => .all
  | _ => .one

/-- The header of a block says how it was written. -/
theorem readHeader_eq (since m : Mark) (cs body : List Char) :
    ∃ after : Mark, readHeader since
        ⟨indentHint cs ++ (chompHint cs ++ '\n' :: body), m⟩ =
          .ok (⟨hintChomp (chompHint cs), if cs.head?.any isSpaceOrBreak then some 2 else none⟩,
            ⟨'\n' :: body, after⟩) ∧ after.line = m.line := by
  -- There are six headers in all, and each of them is read by running the reader on it.
  have signs : chompHint cs = [] ∨ chompHint cs = ['-'] ∨ chompHint cs = ['+'] := by
    unfold chompHint
    split
    · simp
    · split <;> simp
    · split
      · simp
      · split <;> simp
  unfold indentHint
  rcases signs with sign | sign | sign <;> rw [sign] <;> split <;> exact ⟨_, rfl, rfl⟩

/-- A text that ends in a line asks for no line breaks. -/
theorem hintChomp_line {cs : List Char} (last : ∃ c, cs.getLast? = some c ∧ isBreak c = false) :
    hintChomp (chompHint cs) = .none := by
  obtain ⟨c, end_, inside⟩ := last
  obtain ⟨front, rfl⟩ := List.getLast?_eq_some_iff.mp end_
  unfold chompHint
  rw [List.reverse_append, List.reverse_singleton, List.singleton_append]
  cases front.reverse <;> simp [inside, hintChomp]

/-- A text that ends in one line break asks for one. -/
theorem hintChomp_break {front : List Char} {b : Char} (ends : isBreak b = true)
    (last : ∃ c, front.getLast? = some c ∧ isBreak c = false) :
    hintChomp (chompHint (front ++ [b])) = .one := by
  obtain ⟨c, end_, inside⟩ := last
  obtain ⟨front, rfl⟩ := List.getLast?_eq_some_iff.mp end_
  simp [chompHint, ends, inside, hintChomp]

/-- A text that ends in several line breaks asks for all of them, and so does one that has nothing
but line breaks. -/
theorem hintChomp_breaks (front : List Char) {breaks : List Char} (nonempty : breaks ≠ [])
    (several : front = [] ∨ 1 < breaks.length) (ends : ∀ b ∈ breaks, isBreak b = true) :
    hintChomp (chompHint (front ++ breaks)) = .all := by
  have backwards : ∀ b ∈ breaks.reverse, isBreak b = true := fun b member =>
    ends b (List.mem_reverse.mp member)
  rw [← List.length_reverse] at several
  rw [← List.reverse_ne_nil_iff] at nonempty
  unfold chompHint
  rw [List.reverse_append]
  -- The hint looks at the last two characters.
  generalize breaks.reverse = back at *
  match back with
  | [] => exact absurd rfl nonempty
  | [b] =>
    have none : front = [] := several.resolve_right (by simp)
    simp [none, backwards b, hintChomp]
  | b :: c :: rest => simp [backwards b, backwards c, hintChomp]

/-! ### Blocks -/

/-- The lines of a block and its chomping sign give its text. -/
theorem EndsAs.chomped_eq {lead more front : List Char} {b : Body}
    (ends : EndsAs more front b.lastBreak b.emptyLines) (text : b.text.reverse = lead ++ front) :
    chomped (hintChomp (chompHint (lead ++ more))) b = lead ++ more := by
  obtain ⟨⟨c, end_, inside⟩, split⟩ := ends
  have last : ∃ c, (lead ++ front).getLast? = some c ∧ isBreak c = false :=
    ⟨c, by rw [List.getLast?_append, end_]; rfl, inside⟩
  unfold chomped
  rw [text]
  -- The text ends with no line break, with one, or with several.
  rcases split with ⟨rfl, -, -⟩ | ⟨⟨e, rfl, first⟩, broken⟩
  · rw [hintChomp_line last]
    simp
  · rw [first, List.singleton_append] at broken
    rw [← List.append_assoc, first]
    cases later : b.emptyLines with
    | nil =>
      rw [hintChomp_break (broken e (by simp)) last]
    | cons e' rest =>
      rw [later] at broken
      rw [hintChomp_breaks (lead ++ front) (List.cons_ne_nil e (e' :: rest)) (.inr (by simp))
        broken]
      rfl

/-- From the line that a gap leads to, the text of a block is read as the text that was written. -/
def ReadsFrom (since : Mark) (n k : Nat) (cs rest : List Char) (m : Mark) (gap : Gap) : Prop :=
  ∃ body after,
    readLines since false n gap.cursor.rest ⟨[], [], gap.breaks, false, gap.finish, gap.cursor⟩ =
      .ok body ∧
    chomped (hintChomp (chompHint cs)) body = cs ∧ body.cursor = ⟨rest, after⟩ ∧
    after.column = k ∧ m.line ≤ after.line

/-- A gap that ends at the first line of the text leads to the text. -/
theorem readsFrom_line {since m at_ : Mark} {n k : Nat} {lead cs rest : List Char} {gap : Gap}
    (literal : LiteralRest cs) (starts : ∀ c ∈ cs.head?, isBreak c = false) (left : k < n)
    (solid : StartsSolid rest) (breaks : gap.breaks = lead) (column : at_.column = n)
    (later : m.line ≤ at_.line)
    (place : gap.cursor = ⟨literalBody n false cs ++ (lineEnd cs ++ (blanks k ++ rest)), at_⟩) :
    ReadsFrom since n k (lead ++ cs) rest m gap := by
  -- The text that is left serves as fuel, and it is no shorter than the text to be read.
  have enough : cs.length ≤ gap.cursor.rest.length := by
    rw [place, List.length_append]
    exact (length_le_literalBody n false cs).trans (Nat.le_add_right _ _)
  obtain ⟨body, front, after, read, text, endsAs, reached, column', later'⟩ :=
    readLines_eq since n gap.cursor.rest ⟨[], [], gap.breaks, false, gap.finish, gap.cursor⟩
      literal starts left solid column place enough
  exact ⟨body, after, read, endsAs.chomped_eq (by simpa [breaks] using text), reached, column',
    by omega⟩

/-- A text of nothing but line breaks is a gap without a line, and its hint keeps all of them. -/
theorem exists_body_of_breaks (since : Mark) (n : Nat) {breaks rest : List Char} {m : Mark}
    {k : Nat} (literal : LiteralRest breaks) (ends : ∀ b ∈ breaks, isBreak b = true) (left : k < n)
    (solid : StartsSolid rest) (start : m.column = 0) :
    ∃ gap, readGap since (some n)
        ⟨literalBody n true breaks ++ (lineEnd breaks ++ (blanks k ++ rest)), m⟩ = .ok gap ∧
      ReadsFrom since n k breaks rest m gap := by
  have nonempty := literal.nonempty
  have none : lineEnd breaks = [] := by
    simp [lineEnd, List.getLast?_eq_some_getLast nonempty, ends _ (List.getLast_mem nonempty)]
  obtain ⟨gap, after, read, collected, place, column, later⟩ := readGap_lines since m n k start
    (fun b member => ⟨ends b member, literal.printable b member⟩) solid
  have due : k - n = 0 := by omega
  have reached : after.column = k := by omega
  rw [due, blanks_zero, List.nil_append] at place
  -- The gap ends left of the block, so that no line is read.
  refine ⟨gap, by rw [literalBody_of_breaks n true ends, none, List.nil_append, read],
    ⟨[], [], gap.breaks, false, gap.finish, gap.cursor⟩, after, ?_, ?_, place, reached, later⟩
  · exact readLines_stop since n _ (by rw [place]; change after.column ≠ n; omega)
  · have all := hintChomp_breaks [] nonempty (.inl rfl) ends
    rw [List.nil_append] at all
    rw [all, chomped, collected]
    rfl

/-- With the indentation known from the header, the gap before the first line takes the empty lines
of the text. -/
theorem exists_body_after_breaks (since : Mark) (n : Nat) {lead cs rest : List Char} {m : Mark}
    {k : Nat} (literal : LiteralRest (lead ++ cs)) (nonempty : cs ≠ [])
    (ends : ∀ b ∈ lead, isBreak b = true) (next : ∀ c ∈ cs.head?, isBreak c = false) (left : k < n)
    (solid : StartsSolid rest) (start : m.column = 0) :
    ∃ gap, readGap since (some n)
        ⟨literalBody n true (lead ++ cs) ++ (lineEnd (lead ++ cs) ++ (blanks k ++ rest)), m⟩ =
          .ok gap ∧
      ReadsFrom since n k (lead ++ cs) rest m gap := by
  have rested : LiteralRest cs := literal.drop nonempty
  obtain ⟨count, inner, indented, plain, solid', -⟩ := rested.exists_indentation n next
  -- Empty lines are written without indentation, so that the breaks stand side by side.
  have body : literalBody n true (lead ++ cs) = lead ++ (blanks (n + count) ++ inner) := by
    cases lead with
    | nil => exact indented
    | cons b lead => rw [literalBody_breaks n true _ (by simp) ends, indented]
  obtain ⟨gap, at_, read, breaks, place, column, later⟩ := readGap_lines since m n (n + count)
    start (fun b member => ⟨ends b member, literal.printable b (List.mem_append_left _ member)⟩)
    (solid' (lineEnd cs ++ (blanks k ++ rest)))
  rw [Nat.add_sub_cancel_left, ← List.append_assoc (blanks count), ← plain] at place
  refine ⟨gap, ?_, readsFrom_line rested next left solid breaks (by omega) later place⟩
  rw [body, lineEnd_append _ nonempty, List.append_assoc, List.append_assoc, read]

/-- A first line that starts with neither a blank nor a break shows the indentation by its
column. -/
theorem exists_body_at_column (since : Mark) (n : Nat) {cs rest : List Char} {m : Mark} {k : Nat}
    (literal : LiteralRest cs) (flush : cs.head?.any isSpaceOrBreak = false) (left : k < n)
    (solid : StartsSolid rest) (start : m.column = 0) :
    ∃ gap, readGap since none
        ⟨literalBody n true cs ++ (lineEnd cs ++ (blanks k ++ rest)), m⟩ = .ok gap ∧
      gap.column = n ∧ ReadsFrom since n k cs rest m gap := by
  have next : ∀ c ∈ cs.head?, isBreak c = false := by
    intro c head
    rw [Option.mem_def] at head
    simp only [head, Option.any_some, isSpaceOrBreak, Bool.or_eq_false_iff] at flush
    exact flush.2
  obtain ⟨count, inner, indented, plain, solid', unspaced⟩ := literal.exists_indentation n next
  -- No blank of the text is mistaken for indentation.
  have none : count = 0 := unspaced fun space => by
    rw [space] at flush
    cases flush
  subst none
  rw [blanks_zero, List.nil_append] at plain
  replace solid' := solid' (lineEnd cs ++ (blanks k ++ rest))
  have column : (m.advance n).column = n := by simp [start]
  have reads : ReadsFrom since n k ([] ++ cs) rest m
      ⟨n, [], m, ⟨inner ++ (lineEnd cs ++ (blanks k ++ rest)), m.advance n⟩⟩ :=
    readsFrom_line literal next left solid rfl column le_rfl (by rw [plain])
  rw [indented, Nat.add_zero, List.append_assoc]
  generalize inner ++ (lineEnd cs ++ (blanks k ++ rest)) = tail at *
  -- The column is that of the first character that is not a blank.
  have skipped := skipGap_first n (blanks n ++ tail) m m start solid'
  have tab := isAt_tab 0 (m.advance n) solid'
  rw [blanks_zero, List.nil_append] at tab
  exact ⟨⟨n, [], m, ⟨tail, m.advance n⟩⟩, by simp [readGap, skipped, tab], rfl, reads⟩

/-- The text of a block after its header is read as the text that was written. -/
theorem exists_body (since : Mark) (n : Nat) {cs rest : List Char} {m : Mark} {k : Nat}
    (literal : LiteralRest cs) (left : k < n) (solid : StartsSolid rest) (start : m.column = 0) :
    ∃ gap, readGap since (if cs.head?.any isSpaceOrBreak then some n else none)
          ⟨literalBody n true cs ++ (lineEnd cs ++ (blanks k ++ rest)), m⟩ = .ok gap ∧
        (cs.head?.any isSpaceOrBreak = false → gap.column = n) ∧
        ReadsFrom since n k cs rest m gap := by
  -- A hint is given where the first line does not show the indentation by itself.
  cases hinted : cs.head?.any isSpaceOrBreak with
  | false =>
    obtain ⟨gap, read, column, reads⟩ :=
      exists_body_at_column since n literal hinted left solid start
    exact ⟨gap, read, fun _ => column, reads⟩
  | true =>
    obtain ⟨lead, more, rfl, ends, next⟩ := exists_prefix isBreak cs
    cases more with
    | nil =>
      rw [List.append_nil] at *
      obtain ⟨gap, read, reads⟩ := exists_body_of_breaks since n literal ends left solid start
      exact ⟨gap, read, by simp, reads⟩
    | cons c more =>
      obtain ⟨gap, read, reads⟩ := exists_body_after_breaks since n literal
        (List.cons_ne_nil c more) ends next left solid start
      exact ⟨gap, read, by simp, reads⟩

/-- A block ends as its text does. -/
theorem getLast?_literalBody (n : Nat) (broken : Bool) (cs : List Char) :
    (literalBody n broken cs).getLast? = cs.getLast? := by
  induction cs generalizing broken with
  | nil => rfl
  | cons c cs ih =>
    rw [literalBody]
    split <;> simp [List.getLast?_append, List.getLast?_cons, ih]

/-- The line of a block is ended where its text does not end it. -/
theorem endLine_literal (n : Nat) {cs : List Char} (nonempty : cs ≠ []) :
    endLine (literal n cs) =
      '|' ::
        (indentHint cs ++ (chompHint cs ++ '\n' :: (literalBody n true cs ++ lineEnd cs))) := by
  -- The block ends as its text does, which decides whether a break is added.
  have last : (literal n cs).getLast? = cs.getLast? := by
    simp [literal, List.getLast?_append, List.getLast?_cons, getLast?_literalBody,
      List.getLast?_eq_some_getLast nonempty]
  rw [endLine, lineEnd, last]
  split <;> simp [literal]

/-- A literal block reads back as the text that was written. -/
theorem read_literal {cs rest : List Char} {P k : Nat} (m : Mark)
    (allowed : allowsLiteral cs = true)
    (left : k ≤ P) (solid : StartsSolid rest) :
    ∃ token after, Block.read false P ⟨endLine (literal (P + 2) cs) ++ (blanks k ++ rest), m⟩ =
        .ok (token, ⟨rest, after⟩) ∧
      token.kind = .scalar (String.ofList cs) .block ∧ after.column = k ∧ m.line < after.line := by
  simp only [allowsLiteral, Bool.and_eq_true, Bool.not_eq_true', List.isEmpty_eq_false_iff,
    List.all_eq_true, bne_iff_ne] at allowed
  obtain ⟨⟨⟨nonempty, printable⟩, before⟩, last⟩ := allowed
  -- The header is read first, then the gap up to the text, and then its lines.
  obtain ⟨header, readHead, line⟩ := readHeader_eq m (m.advance 1) cs
    (literalBody (P + 2) true cs ++ (lineEnd cs ++ (blanks k ++ rest)))
  obtain ⟨gap, readGap, column, body, after, readLines, text, cursor, reached, later⟩ :=
    exists_body m (P + 2) ⟨nonempty, printable, before, last⟩ (by omega) solid
      (m := header.nextLine 1) (k := k) rfl
  refine ⟨⟨.scalar (String.ofList cs) .block, m, body.finish⟩, after, ?_, rfl, reached, ?_⟩
  · -- The indentation is known from the hint, or else from the first line.
    have known : ((if cs.head?.any isSpaceOrBreak then some 2 else none : Option Nat).map
        fun n => (max (P : Int) 0).toNat + n) =
        if cs.head?.any isSpaceOrBreak then some (P + 2) else none := by
      split <;> simp
    have indent : (if cs.head?.any isSpaceOrBreak then some (P + 2) else none).getD
        (max (max gap.column ((P : Int) + 1).toNat) 1) = P + 2 := by
      split
      · rfl
      · next plain =>
        rw [Option.getD_none, column (Bool.eq_false_iff.mpr plain)]
        omega
    have lineEnded : skipLineEnd m .blockScalar
        ⟨'\n' :: (literalBody (P + 2) true cs ++ (lineEnd cs ++ (blanks k ++ rest))), header⟩ =
          .ok ⟨literalBody (P + 2) true cs ++ (lineEnd cs ++ (blanks k ++ rest)),
            header.nextLine 1⟩ := rfl
    rw [endLine_literal _ nonempty]
    simp only [List.cons_append, List.append_assoc]
    simp only [Block.read, Cursor.skip_cons, Cursor.skip_zero, readHead, bind, Except.bind,
      lineEnded, known, readGap, indent, readLines, text, pure, Except.pure, cursor]
  · simp at later line
    omega

end ToolPolicy.Yaml
