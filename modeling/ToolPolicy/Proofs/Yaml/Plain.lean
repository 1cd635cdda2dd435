import ToolPolicy.Proofs.Yaml.Cursor
import ToolPolicy.Yaml.Token.Flow

/-! Plain scalars read back as the texts that were written plain. -/

namespace ToolPolicy.Yaml

/-! ### Gaps -/

namespace Flow

/-- A gap before which nothing was gone over. -/
def Gap.none : Gap := ⟨[], false, [], []⟩

/-- Blanks within a line are kept. -/
theorem skipGap_blanks (forbidden : Bool → Mark → Bool) (fuel : List Char) (g : Gap) (m : Mark)
    {n : Nat} {rest : List Char} (enough : n ≤ fuel.length) (solid : StartsSolid rest) :
    skipGap forbidden fuel g ⟨blanks n ++ rest, m⟩ =
      .ok (if g.isBroken then g else { g with blanks := g.blanks ++ blanks n },
        ⟨rest, m.advance n⟩) := by
  -- Each blank is put behind the ones before it, unless a break has made them meaningless.
  induction n generalizing fuel g m with
  | zero =>
    have kept : (if g.isBroken then g else { g with blanks := g.blanks ++ blanks 0 }) = g := by
      simp
    rw [kept]
    cases fuel with
    | nil => rfl
    | cons _ fuel =>
      cases rest with
      | nil => rfl
      | cons c rest =>
        obtain ⟨blank, break_⟩ := (startsSolid_cons c rest).mp solid
        simp [skipGap, blank, break_]
  | succ n ih =>
    cases fuel with
    | nil => cases enough
    | cons _ fuel =>
      have next := ih fuel (if g.isBroken then g else { g with blanks := g.blanks ++ [' '] })
        (m.advance 1) (by simpa using enough)
      rw [blanks_succ, List.cons_append, skipGap]
      have blank : isBlank ' ' = true := rfl
      have space : (' ' == '\t') = false := rfl
      simp only [Cursor.peek_cons, blank, space, if_true, Bool.false_and, Bool.false_eq_true,
        if_false, Cursor.skip_cons, Cursor.skip_zero]
      rw [next, Mark.advance_advance, Nat.add_comm 1 n]
      cases broken : g.isBroken <;> simp [broken]

/-- The line breaks after the first one and the indentation after them are gone over together. -/
theorem skipGap_lines (forbidden : Bool → Mark → Bool) (fuel first later : List Char)
    {breaks rest : List Char} {m : Mark} {n : Nat} (enough : breaks.length + n ≤ fuel.length)
    (solid : StartsSolid rest)
    (printable : ∀ b ∈ breaks, isBreak b = true ∧ isPrintable b = true) (start : m.column = 0) :
    ∃ m' : Mark, m'.column = n ∧ m.line ≤ m'.line ∧
      skipGap forbidden fuel ⟨[], true, first, later⟩ ⟨breaks ++ (blanks n ++ rest), m⟩ =
        .ok (⟨[], true, first, later ++ breaks⟩, ⟨rest, m'⟩) := by
  -- After every break the column is zero again, so that the blanks count as indentation.
  induction breaks generalizing fuel later m with
  | nil =>
    refine ⟨m.advance n, by simp [start], le_rfl, ?_⟩
    rw [List.nil_append, skipGap_blanks _ _ _ _ (by simpa using enough) solid]
    simp
  | cons b breaks ih =>
    obtain ⟨⟨breaks_, printable_⟩, others⟩ := List.forall_mem_cons.mp printable
    cases fuel with
    | nil => simp at enough
    | cons _ fuel =>
      obtain ⟨m', column, line, read⟩ := ih fuel (later ++ [b]) (m := m.nextLine 1)
        (by simp only [List.length_cons] at enough; omega) others rfl
      refine ⟨m', column, by simp at line; omega, ?_⟩
      rw [List.cons_append, skipGap]
      simp only [Cursor.peek_cons, isBlank_eq_false_of_isBreak breaks_, breaks_, if_true,
        Bool.false_eq_true, if_false, Cursor.lineBreak_cons breaks_ printable_,
        Cursor.skipBreak_cons breaks_ printable_, read]
      simp

/-- Line breaks and the indentation after them are gone over together. -/
theorem skipGap_break (forbidden : Bool → Mark → Bool) (fuel : List Char) (m : Mark) {b : Char}
    {breaks rest : List Char} {n : Nat} (enough : breaks.length + n < fuel.length)
    (solid : StartsSolid rest)
    (printable : ∀ c ∈ b :: breaks, isBreak c = true ∧ isPrintable c = true) :
    ∃ m' : Mark, m'.column = n ∧ m.line < m'.line ∧
      skipGap forbidden fuel Gap.none ⟨b :: breaks ++ (blanks n ++ rest), m⟩ =
        .ok (⟨[], true, [b], breaks⟩, ⟨rest, m'⟩) := by
  obtain ⟨⟨breaks_, printable_⟩, others⟩ := List.forall_mem_cons.mp printable
  cases fuel with
  | nil => simp at enough
  | cons _ fuel =>
    -- After the first break the gap is broken, and the others are collected behind it.
    obtain ⟨m', column, line, read⟩ := skipGap_lines forbidden fuel [b] [] (n := n)
      (m := m.nextLine 1) (by simp only [List.length_cons] at enough; omega) solid others rfl
    refine ⟨m', column, by simp at line; omega, ?_⟩
    rw [List.cons_append, skipGap]
    simp only [Gap.none, Cursor.peek_cons, isBlank_eq_false_of_isBreak breaks_, breaks_, if_true,
      Bool.false_eq_true, if_false, Cursor.lineBreak_cons breaks_ printable_,
      Cursor.skipBreak_cons breaks_ printable_, read]
    simp

/-! ### Words -/

/-- What ends the last word of a plain scalar: a blank, the end of a line, or the colon after a
key. -/
def EndsPlain (rest : List Char) : Prop :=
  ∀ c ∈ rest.head?, isBlank c = true ∨ isBreak c = true ∨
    c = ':' ∧ endsWord rest.tail.head? = true

/-- A colon within a plain text is followed by a solid character. -/
theorem endsWord_of_safe {before : Option Char} {rest tail : List Char}
    (safe : (neighbourhoods before (':' :: rest)).any isIndicator = false) :
    endsWord (rest ++ tail).head? = false := by
  have after : isSpaceOrEnd rest.head? = false := by
    rw [neighbourhoods, List.any_cons, Bool.or_eq_false_iff] at safe
    have first := safe.1
    -- A colon is an indicator wherever a blank or nothing follows it, at the start as elsewhere.
    unfold isIndicator at first
    split at first
    · simpa using (Bool.or_eq_false_iff.mp first).2
    · simpa using (Bool.or_eq_false_iff.mp first).1
  cases rest with
  | nil => cases after
  | cons d rest => exact after

/-- What follows the first character of a plain text is safe as well. -/
theorem safe_tail {before : Option Char} {c : Char} {rest : List Char}
    (safe : (neighbourhoods before (c :: rest)).any isIndicator = false) :
    (neighbourhoods (some c) rest).any isIndicator = false := by
  rw [neighbourhoods, List.any_cons, Bool.or_eq_false_iff] at safe
  exact safe.2

/-- What follows some characters of a plain text is safe as well. -/
theorem safe_drop {before : Option Char} {front rest : List Char} {c : Char}
    (safe : (neighbourhoods before (front ++ c :: rest)).any isIndicator = false) :
    (neighbourhoods (some c) rest).any isIndicator = false := by
  -- What a character has before it changes with the front, but is known at the last.
  induction front generalizing before with
  | nil => exact safe_tail safe
  | cons d front ih => exact ih (safe_tail safe)

/-- A word ends at what ends the scalar. -/
theorem readPlainWord_stop (since m : Mark) (fuel text : List Char) {rest : List Char}
    (ends : EndsPlain rest) :
    readPlainWord false since fuel text ⟨rest, m⟩ = .ok (text, ⟨rest, m⟩) := by
  cases fuel with
  | nil => rfl
  | cons _ fuel =>
    rw [readPlainWord]
    cases rest with
    | nil => rfl
    | cons c rest =>
      -- A word ends at a blank, at a break and at a colon that stands apart from what follows.
      rcases ends c rfl with blank | break_ | ⟨rfl, apart⟩
      · simp [blank]
      · simp [break_]
      · have solid : isBlank ':' = false ∧ isBreak ':' = false := by decide
        have apart : endsWord rest.head? = true := apart
        simp [solid, apart]

/-- The characters of a word are read together. -/
theorem readPlainWord_append (since m : Mark) (fuel text : List Char) {before : Option Char}
    {word more tail : List Char} (solid : ∀ c ∈ word, IsSolid c)
    (safe : (neighbourhoods before (word ++ more)).any isIndicator = false)
    (ends : EndsPlain (more ++ tail)) (enough : word.length ≤ fuel.length) :
    readPlainWord false since fuel text ⟨word ++ (more ++ tail), m⟩ =
      .ok (word.reverse ++ text, ⟨more ++ tail, m.advance word.length⟩) := by
  -- Each character is solid and no indicator where it stands, so that the word goes on.
  induction word generalizing before fuel text m with
  | nil =>
    rw [List.nil_append]
    exact readPlainWord_stop since m fuel text ends
  | cons c word ih =>
    obtain ⟨⟨blank, break_⟩, others⟩ := List.forall_mem_cons.mp solid
    cases fuel with
    | nil => cases enough
    | cons _ fuel =>
      have next := ih (m.advance 1) fuel (c :: text) others (safe_tail safe) (by simpa using enough)
      -- A colon with a blank behind it would be an indicator, which the text is free of.
      have colon : (c == ':' && endsWord (word ++ (more ++ tail)).head?) = false := by
        rw [Bool.and_eq_false_iff]
        by_cases colon : c = ':'
        · subst colon
          right
          rw [← List.append_assoc]
          exact endsWord_of_safe safe
        · exact .inl (by simpa using colon)
      rw [List.cons_append, readPlainWord]
      simp only [Cursor.peek_cons, blank, break_, Bool.or_self, Bool.false_eq_true, if_false,
        Bool.false_and, Cursor.peekAt_one_cons, colon, Cursor.skip_cons, Cursor.skip_zero, next]
      simp [Nat.add_comm]

/-! ### Scalars -/

/-- A text starts with a word, which may be empty. -/
theorem exists_word (cs : List Char) :
    ∃ word rest, cs = word ++ rest ∧ (∀ c ∈ word, c ≠ ' ') ∧ ∀ c ∈ rest.head?, c = ' ' := by
  obtain ⟨word, rest, rfl, solid, stop⟩ := exists_prefix (· != ' ') cs
  exact ⟨word, rest, rfl, fun c member => by simpa using solid c member,
    fun c member => by simpa using stop c member⟩

/-- A text without blanks at its ends is one word, or a word and blanks before such a text. -/
theorem exists_words {cs : List Char} (nonempty : cs ≠ []) (first : cs.head? ≠ some ' ')
    (last : cs.getLast? ≠ some ' ') :
    ∃ word more, cs = word ++ more ∧ word ≠ [] ∧ (∀ c ∈ word, c ≠ ' ') ∧
      (more = [] ∨ ∃ n rest, more = blanks (n + 1) ++ rest ∧ rest ≠ [] ∧
        rest.head? ≠ some ' ' ∧ rest.getLast? ≠ some ' ') := by
  -- The first word goes up to the first blank. What is after the blanks ends where the text ends.
  obtain ⟨word, more, rfl, solid, stop⟩ := exists_word cs
  refine ⟨word, more, rfl, ?_, solid, ?_⟩
  · rintro rfl
    cases more with
    | nil => exact nonempty rfl
    | cons c more => exact first (congrArg some (stop c rfl))
  · obtain ⟨n, rest, rfl, inner⟩ := exists_blanks more
    cases n with
    | zero =>
      cases rest with
      | nil => exact .inl rfl
      | cons c rest => exact absurd (congrArg some (stop c rfl)) inner
    | succ n =>
      -- If nothing followed the blanks, the text would end with one.
      have filled : rest ≠ [] := by
        rintro rfl
        apply last
        simp [blanks, List.replicate_succ']
      refine .inr ⟨n, rest, rfl, filled, inner, ?_⟩
      simpa [List.getLast?_append, List.getLast?_eq_some_getLast filled] using last

/-- What follows a plain scalar: the colon after a key, the end of its line and the indentation of
the next one, or nothing at all. -/
inductive FollowsPlain (indent : Nat) : List Char → Prop where
  | colon (rest : List Char) (apart : endsWord rest.head? = true) :
    FollowsPlain indent (':' :: rest)
  | line (n : Nat) (rest : List Char) (left : n < indent) (solid : StartsSolid rest) :
      FollowsPlain indent ('\n' :: (blanks n ++ rest))
  | nothing : FollowsPlain indent []

/-- A plain scalar ends where what follows it starts. -/
theorem FollowsPlain.ends {indent : Nat} {tail : List Char} (follows : FollowsPlain indent tail) :
    EndsPlain tail := by
  cases follows with
  | colon rest apart => simpa [EndsPlain] using .inr (.inr apart)
  | line n rest => simp [EndsPlain, isBreak]
  | nothing => simp [EndsPlain]

/-- The text that is left of a plain scalar. -/
structure PlainRest (before : Option Char) (cs : List Char) : Prop where
  nonempty : cs ≠ []
  printable : ∀ c ∈ cs, isPrintable c = true ∧ isBreak c = false
  first : cs.head? ≠ some ' '
  last : cs.getLast? ≠ some ' '
  safe : (neighbourhoods before cs).any isIndicator = false
  comment : cs.head? ≠ some '#'

/-- The rest of a plain scalar starts with a solid character. -/
theorem PlainRest.startsSolid {before : Option Char} {cs : List Char} (plain : PlainRest before cs)
    (tail : List Char) : StartsSolid (cs ++ tail) := by
  obtain ⟨c, rest, rfl⟩ := List.exists_cons_of_ne_nil plain.nonempty
  obtain ⟨printable, unbroken⟩ := plain.printable c List.mem_cons_self
  rw [List.cons_append, startsSolid_cons]
  exact isSolid_of_isPrintable printable (by simpa using plain.first) unbroken

/-- A word and the blanks after it leave the rest of a plain scalar. -/
theorem PlainRest.after {before : Option Char} {word rest : List Char} {n : Nat}
    (plain : PlainRest before (word ++ (blanks (n + 1) ++ rest))) (nonempty : rest ≠ [])
    (first : rest.head? ≠ some ' ') (last : rest.getLast? ≠ some ' ') :
    PlainRest (some ' ') rest := by
  obtain ⟨-, printable, -, -, safe, -⟩ := plain
  have split : word ++ (blanks (n + 1) ++ rest) = (word ++ blanks n) ++ ' ' :: rest := by
    simp [blanks, List.replicate_succ']
  rw [split] at printable safe
  have rested := safe_drop safe
  refine ⟨nonempty, fun c member => printable c (by simp [member]), first, last, rested, ?_⟩
  -- A hash sign after a blank would be an indicator.
  intro comment
  obtain ⟨c, more, rfl⟩ := List.exists_cons_of_ne_nil nonempty
  cases comment
  cases rested

/-- Where the cursor comes to rest after a plain scalar that ended at a place, and whether a line
ended before it. -/
inductive Lands (m : Mark) : List Char → Cursor → Bool → Prop where
  | colon (rest : List Char) : Lands m (':' :: rest) ⟨':' :: rest, m⟩ false
  | line (rest : List Char) (after : Mark) (solid : StartsSolid rest)
      (later : m.line < after.line) :
      Lands m ('\n' :: (blanks after.column ++ rest)) ⟨rest, after⟩ true
  | nothing : Lands m [] ⟨[], m⟩ false

/-- A word that the reader of a plain scalar takes up to what ends it. -/
structure TakesWord (since m : Mark) (word rest : List Char) : Prop where
  filled : word ≠ []
  unmarked : (⟨word ++ rest, m⟩ : Cursor).isAtAnyMarker = false
  uncommented : (⟨word ++ rest, m⟩ : Cursor).isAt '#' = false
  read : readPlainWord false since (word ++ rest) [] ⟨word ++ rest, m⟩ =
    .ok (word.reverse, ⟨rest, m.advance word.length⟩)

/-- The first word of a plain text is taken. -/
theorem PlainRest.takesWord (since : Mark) {before : Option Char} {word more tail : List Char}
    {m : Mark} (plain : PlainRest before (word ++ more)) (filled : word ≠ [])
    (unspaced : ∀ c ∈ word, c ≠ ' ') (ends : EndsPlain (more ++ tail))
    (marker : (⟨word ++ more ++ tail, m⟩ : Cursor).isAtAnyMarker = false) :
    TakesWord since m word (more ++ tail) := by
  have solid : ∀ c ∈ word, IsSolid c := by
    intro c member
    obtain ⟨printable, unbroken⟩ := plain.printable c (List.mem_append_left _ member)
    exact isSolid_of_isPrintable printable (unspaced c member) unbroken
  -- A word that started with the mark of a comment would not be read as one.
  have comment : (⟨word ++ (more ++ tail), m⟩ : Cursor).isAt '#' = false := by
    obtain ⟨c, word, rfl⟩ := List.exists_cons_of_ne_nil filled
    simpa [Cursor.isAt] using plain.comment
  have read := readPlainWord_append since m (word ++ (more ++ tail)) [] solid plain.safe ends
    (by simp)
  rw [List.append_nil] at read
  rw [List.append_assoc] at marker
  exact ⟨filled, marker, comment, read⟩

/-- After the last word a plain scalar ends, at once or where the next line stands too far left. -/
theorem TakesWord.readPlainBody_last {since m : Mark} {word tail : List Char}
    (takes : TakesWord since m word tail) (finish : Mark) (fuel text bs : List Char) (head : Char)
    {indent : Nat} (follows : FollowsPlain indent tail) :
    ∃ p : Plain, readPlainBody false indent since (head :: fuel)
        ⟨text, finish, ⟨bs, false, [], []⟩, ⟨word ++ tail, m⟩⟩ = .ok p ∧
      p.text = word.reverse ++ (bs.reverse ++ text) ∧
      Lands (m.advance word.length) tail p.cursor p.gap.isBroken := by
  have isEmpty : word.isEmpty = false := by simpa using takes.filled
  rw [readPlainBody, takes.unmarked, takes.uncommented]
  simp only [Bool.or_self, Bool.false_eq_true, if_false, takes.read, List.isEmpty_reverse, isEmpty]
  cases follows with
  -- A colon ends the scalar at once, and no gap is looked at.
  | colon rest apart =>
    have solid : isBlank ':' = false ∧ isBreak ':' = false := by decide
    simp only [Cursor.peek_cons, Option.any_some, solid, Bool.or_self, Bool.not_false, if_true]
    exact ⟨_, rfl, by simp [Gap.text], .colon rest⟩
  | line n rest left startsSolid =>
    have ending : isBreak '\n' = true := rfl
    have feed : ∀ c ∈ ['\n'], isBreak c = true ∧ isPrintable c = true :=
      List.forall_mem_singleton.mpr ⟨rfl, rfl⟩
    -- The gap up to the next line is gone over, and it is not folded into the text.
    obtain ⟨after, rfl, later, gap⟩ := skipGap_break
      (fun broken m => broken && m.column < indent) ('\n' :: (blanks n ++ rest))
      (m.advance word.length) (n := n)
      (by simp only [List.length_cons, List.length_append, List.length_nil, length_blanks]; omega)
      startsSolid feed
    simp only [Gap.none, List.singleton_append] at gap
    simp only [Cursor.peek_cons, Option.any_some, ending, Bool.or_true, Bool.not_true,
      Bool.false_eq_true, if_false, gap, Bool.not_false, Bool.true_and, decide_eq_true_eq, left,
      if_true]
    exact ⟨_, rfl, by simp [Gap.text], .line rest after startsSolid (by simpa using later)⟩
  | nothing =>
    simp only [Cursor.peek_nil, Option.any_none, Bool.not_false, if_true]
    exact ⟨_, rfl, by simp [Gap.text], .nothing⟩

/-- After a word with blanks behind it the reader stands at what follows the blanks. -/
theorem TakesWord.readPlainBody_next {since m : Mark} {word rest : List Char} {n : Nat}
    (takes : TakesWord since m word (blanks (n + 1) ++ rest)) (finish : Mark)
    (fuel text bs : List Char) (head : Char) {indent : Nat} (solid : StartsSolid rest)
    (inside : indent ≤ m.column + 1) :
    readPlainBody false indent since (head :: fuel)
        ⟨text, finish, ⟨bs, false, [], []⟩, ⟨word ++ (blanks (n + 1) ++ rest), m⟩⟩ =
      readPlainBody false indent since fuel
        ⟨word.reverse ++ (bs.reverse ++ text), m.advance word.length,
          ⟨blanks (n + 1), false, [], []⟩, ⟨rest, (m.advance word.length).advance (n + 1)⟩⟩ := by
  have isEmpty : word.isEmpty = false := by simpa using takes.filled
  have filled : 0 < word.length := List.length_pos_iff.mpr takes.filled
  have gap := skipGap_blanks (fun broken m => broken && m.column < indent)
    (blanks (n + 1) ++ rest) Gap.none (m.advance word.length) (n := n + 1) (by simp) solid
  have spaced : (⟨blanks (n + 1) ++ rest, m.advance word.length⟩ : Cursor).peek.any
      (fun ch => isBlank ch || isBreak ch) = true := rfl
  have whole : (⟨bs, false, [], []⟩ : Gap).text = bs := rfl
  -- On the same line the cursor only moves to the right, so it stays within the scalar.
  have reached : ¬m.column + (word.length + (n + 1)) < indent := by omega
  rw [readPlainBody, takes.unmarked, takes.uncommented]
  rw [Gap.none] at gap
  simp only [Bool.or_self, Bool.false_eq_true, if_false, takes.read, List.isEmpty_reverse, isEmpty,
    spaced, gap, whole, Bool.not_true]
  simp [reached]

/-- A plain scalar is read to its end. -/
theorem readPlainBody_eq (since finish m : Mark) (fuel text bs : List Char) {indent : Nat}
    {before : Option Char} {cs tail : List Char} (plain : PlainRest before cs)
    (follows : FollowsPlain indent tail) (inside : indent ≤ m.column + 1)
    (marker : (⟨cs ++ tail, m⟩ : Cursor).isAtAnyMarker = false)
    (enough : cs.length ≤ fuel.length) :
    ∃ p : Plain, readPlainBody false indent since fuel
        ⟨text, finish, ⟨bs, false, [], []⟩, ⟨cs ++ tail, m⟩⟩ = .ok p ∧
      p.text = cs.reverse ++ (bs.reverse ++ text) ∧
      Lands (m.advance cs.length) tail p.cursor p.gap.isBroken := by
  -- Each round of the reader takes one word, and the blanks after it if another word follows.
  induction fuel generalizing before cs text bs finish m with
  | nil => exact absurd (List.length_eq_zero_iff.mp (Nat.le_zero.mp enough)) plain.nonempty
  | cons head fuel ih =>
    obtain ⟨word, more, rfl, filled, unspaced, split⟩ :=
      exists_words plain.nonempty plain.first plain.last
    rcases split with rfl | ⟨n, rest, rfl, inner, first, last⟩
    · have takes := plain.takesWord since filled unspaced follows.ends marker
      obtain ⟨p, read, text', lands⟩ := takes.readPlainBody_last finish fuel text bs head follows
      rw [List.append_nil]
      exact ⟨p, read, text', lands⟩
    · have takes := plain.takesWord since filled unspaced
        (by simp [EndsPlain, blanks_succ, isBlank]) marker
      have next := plain.after inner first last
      -- Behind a word the column is not the first one, where alone a marker could stand.
      have column : 0 < word.length := List.length_pos_iff.mpr filled
      rw [List.append_assoc] at takes
      have step := takes.readPlainBody_next finish fuel text bs head (next.startsSolid tail) inside
      obtain ⟨p, body, text', lands⟩ := ih (m.advance word.length)
        ((m.advance word.length).advance (n + 1)) (word.reverse ++ (bs.reverse ++ text))
        (blanks (n + 1)) next (by simp; omega)
        (Cursor.isAtAnyMarker_of_column (by simp)) (by simp at enough; omega)
      refine ⟨p, ?_, by simp [text'], by simpa [Nat.add_assoc] using lands⟩
      simp only [List.append_assoc]
      exact step.trans body

/-- What may be written plain is the text of a plain scalar. -/
theorem plainRest_of_allowsPlain {cs : List Char} (nonempty : cs ≠ [])
    (allowed : allowsPlain cs = true) : PlainRest none cs := by
  simp only [allowsPlain, Bool.and_eq_true, Bool.not_eq_true', List.all_eq_true,
    List.any_eq_false] at allowed
  obtain ⟨⟨⟨⟨⟨printable, unbroken⟩, -⟩, first⟩, last⟩, safe⟩ := allowed
  have noSpace {c? : Option Char} (solid : c?.any isSpaceOrBreak = false) : c? ≠ some ' ' := by
    rintro rfl
    cases solid
  refine ⟨nonempty, fun c member => ⟨printable c member, by simpa using unbroken c member⟩,
    noSpace first, noSpace last, List.any_eq_false.mpr safe, ?_⟩
  -- The mark of a comment in front would count as an indicator.
  intro comment
  obtain ⟨c, rest, rfl⟩ := List.exists_cons_of_ne_nil nonempty
  cases comment
  exact safe _ List.mem_cons_self rfl

/-- What may be written plain is no document marker. -/
theorem isAtAnyMarker_of_allowsPlain {cs tail : List Char} {indent : Nat} {m : Mark}
    (allowed : allowsPlain cs = true) (follows : FollowsPlain indent tail) :
    (⟨cs ++ tail, m⟩ : Cursor).isAtAnyMarker = false := by
  simp only [allowsPlain, Bool.and_eq_true, Bool.not_eq_true'] at allowed
  obtain ⟨⟨⟨⟨-, marker⟩, -⟩, -⟩, -⟩ := allowed
  -- Neither a colon nor a line break is part of a marker, so all of it would be in the text.
  have other : (cs ++ tail).take 3 ≠ ['-', '-', '-'] ∧ (cs ++ tail).take 3 ≠ ['.', '.', '.'] := by
    match cs with
    | a :: b :: c :: rest => simpa [startsLikeMarker] using marker
    | [a, b] => cases follows <;> simp
    | [a] => cases follows <;> simp
    | [] => cases follows <;> simp
  simp [Cursor.isAtAnyMarker, Cursor.isAtMarker, other]

/-- A text that was written plain reads back as a scalar with that text. -/
theorem readPlain_eq {cs tail : List Char} {parent : Int} {m : Mark} (nonempty : cs ≠ [])
    (allowed : allowsPlain cs = true) (follows : FollowsPlain (parent + 1).toNat tail)
    (inside : parent ≤ m.column) :
    ∃ token cursor broken, readPlain false parent ⟨cs ++ tail, m⟩ = .ok ((token, broken), cursor) ∧
      token.kind = .scalar (String.ofList cs) .plain ∧
      Lands (m.advance cs.length) tail cursor broken := by
  obtain ⟨p, body, text, lands⟩ := readPlainBody_eq m m m (cs ++ tail) [] []
    (plainRest_of_allowsPlain nonempty allowed) follows
    (by omega) (isAtAnyMarker_of_allowsPlain allowed follows) (by simp)
  refine ⟨⟨.scalar (String.ofList p.text.reverse) .plain, m, p.finish⟩, p.cursor, p.gap.isBroken,
    ?_, ?_, lands⟩
  · rw [readPlain, body]
    rfl
  · simp [text]

end Flow

end ToolPolicy.Yaml
