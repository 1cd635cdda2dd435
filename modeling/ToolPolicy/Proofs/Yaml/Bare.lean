import ToolPolicy.Proofs.Yaml.Scan

/-! Texts without content: lines of blanks, comments and document markers. Their tokens are those of
the markers. -/

namespace ToolPolicy.Yaml

/-- What stands between documents. -/
inductive Marker where
  | start
  | finish
deriving DecidableEq, Repr

namespace Marker

/-- The character that a marker is made of. -/
def char : Marker → Char
  | start => '-'
  | finish => '.'

/-- The token of a marker. -/
def kind : Marker → Token.Kind
  | start => .documentStart
  | finish => .documentEnd

/-- A marker at the start of a line. -/
def text (k : Marker) : List Char := [k.char, k.char, k.char]

end Marker

/-- The marker of a line without content, if it has one. Blanks come before a comment, and blanks or
tabs after a marker. -/
def bareLine? (line : List Char) : Option (List Marker) :=
  match line.dropWhile (· == ' '), line with
  | [], _ | '#' :: _, _ => some []
  | _, '-' :: '-' :: '-' :: rest => if rest.all isBlank then some [.start] else none
  | _, '.' :: '.' :: '.' :: rest => if rest.all isBlank then some [.finish] else none
  | _, _ => none

/-- The markers of a text that has nothing but lines without content. -/
def markers? (cs : List Char) : Option (List Marker) :=
  ((cs.splitOnP isBreak).mapM bareLine?).map List.flatten

/-! ### Lines -/

/-- What may stand before the end of a line: blanks, tabs where they are allowed, and a comment. -/
def IsMargin (tabs : Bool) (cs : List Char) : Prop :=
  ∃ gap comment, cs = gap ++ comment ∧ (∀ c ∈ gap, c = ' ' ∨ (tabs = true ∧ c = '\t')) ∧
    (comment = [] ∨ comment.head? = some '#') ∧ ∀ c ∈ comment, isBreak c = false

/-- Blanks and tabs are a margin where tabs are allowed, and end the word before them. -/
theorem isMargin_of_isBlank {rest : List Char} (blank : rest.all isBlank = true) :
    endsWord rest.head? = true ∧ IsMargin true rest := by
  rw [List.all_eq_true] at blank
  constructor
  · cases rest with
    | nil => rfl
    | cons c more => simp [endsWord, blank c List.mem_cons_self]
  · refine ⟨rest, [], by simp, fun c member => ?_, .inl rfl, by simp⟩
    simpa [isBlank] using blank c member

/-- A line without content is a margin, or a marker with a margin after it. -/
theorem bareLine?_eq_some {line : List Char} {ms : List Marker} (bare : bareLine? line = some ms)
    (within : ∀ c ∈ line, isBreak c = false) :
    (ms = [] ∧ IsMargin false line) ∨
      ∃ k rest, ms = [k] ∧ line = k.text ++ rest ∧ endsWord rest.head? = true ∧
        IsMargin true rest := by
  have split := List.takeWhile_append_dropWhile (p := (· == ' ')) (l := line)
  have spaces : ∀ c ∈ line.takeWhile (· == ' '), c = ' ' := by
    intro c member
    simpa using List.mem_takeWhile_imp member
  have inside : ∀ c ∈ line.dropWhile (· == ' '), isBreak c = false := fun c member =>
    within c ((List.dropWhile_suffix _).subset member)
  -- One case for each kind of line: blanks alone, a comment, the two markers, and anything else.
  unfold bareLine? at bare
  split at bare
  · next empty =>
    cases bare
    exact .inl ⟨rfl, _, _, split.symm, fun c member => .inl (spaces c member), .inl empty, inside⟩
  · next body comment =>
    cases bare
    refine .inl ⟨rfl, _, _, split.symm, fun c member => .inl (spaces c member), .inr ?_, inside⟩
    rw [comment]
    rfl
  · next rest _ _ =>
    split at bare
    · next blank =>
      cases bare
      exact .inr ⟨.start, rest, rfl, rfl, isMargin_of_isBlank blank⟩
    · cases bare
  · next rest _ _ =>
    split at bare
    · next blank =>
      cases bare
      exact .inr ⟨.finish, rest, rfl, rfl, isMargin_of_isBlank blank⟩
    · cases bare
  · cases bare

/-- The markers of a single line are those of the text. -/
theorem markers?_line {line : List Char} (within : ∀ c ∈ line, isBreak c = false) :
    markers? line = bareLine? line := by
  rw [markers?, List.splitOnP_eq_singleton within]
  cases bare : bareLine? line with
  | none => simp [bare]
  | some here => simp [bare]

/-- The markers of a line come before those of the lines after it. -/
theorem markers?_append {line rest : List Char} {b : Char} (within : ∀ c ∈ line, isBreak c = false)
    (breaks : isBreak b = true) : markers? (line ++ b :: rest) =
      (bareLine? line).bind fun here => (markers? rest).map (here ++ ·) := by
  rw [markers?, List.splitOnP_append_cons_of_forall_mem within b breaks, List.mapM_cons, markers?]
  -- One line with content spoils the text, before the break or after it.
  cases bareLine? line with
  | none => rfl
  | some here =>
    cases (rest.splitOnP isBreak).mapM bareLine? with
    | none => rfl
    | some later => simp

/-- What may come after a line without content: nothing, or its end and more such lines. -/
def GoesOn (tail : List Char) (ms : List Marker) : Prop :=
  tail = [] ∧ ms = [] ∨
    ∃ b rest, tail = b :: rest ∧ isBreak b = true ∧ markers? rest = some ms

/-- A text without content starts with a line without content. -/
theorem exists_line {cs : List Char} {ms : List Marker} (bare : markers? cs = some ms) :
    ∃ line tail here later, cs = line ++ tail ∧ (∀ c ∈ line, isBreak c = false) ∧
      bareLine? line = some here ∧ ms = here ++ later ∧ GoesOn tail later := by
  -- The line goes up to the first break, or to the end of the text.
  obtain ⟨line, tail, rfl, within, stop⟩ := exists_prefix (fun c => !isBreak c) cs
  replace within : ∀ c ∈ line, isBreak c = false := fun c member => by simpa using within c member
  cases tail with
  | nil =>
    rw [List.append_nil, markers?_line within] at bare
    exact ⟨line, [], ms, [], rfl, within, bare, (List.append_nil ms).symm, .inl ⟨rfl, rfl⟩⟩
  | cons b rest =>
    have breaks : isBreak b = true := by simpa using stop b rfl
    rw [markers?_append within breaks, Option.bind_eq_some_iff] at bare
    obtain ⟨here, known, mapped⟩ := bare
    obtain ⟨later, others, rfl⟩ := Option.map_eq_some_iff.mp mapped
    have goesOn : GoesOn (b :: rest) later := .inr ⟨b, rest, rfl, breaks, others⟩
    exact ⟨line, b :: rest, here, later, rfl, within, known, rfl, goesOn⟩

/-! ### Going over lines -/

/-- A line break is gone over, and what follows has the same markers. -/
theorem skipBreak_markers {b : Char} {rest : List Char} {ms : List Marker}
    (breaks : isBreak b = true) (bare : markers? rest = some ms) (m : Mark) :
    ∃ after m', (⟨b :: rest, m⟩ : Cursor).skipBreak = ⟨after, m'⟩ ∧ m'.column = 0 ∧
      after.length ≤ rest.length ∧ markers? after = some ms := by
  unfold Cursor.skipBreak
  split
  · next after shape =>
    -- A carriage return takes the line feed after it along, which would be an empty line.
    cases shape
    have empty : markers? ('\n' :: after) = markers? after := by
      have whole : markers? ([] ++ '\n' :: after) = _ := markers?_append (by simp) rfl
      rw [List.nil_append] at whole
      rw [whole]
      show (some []).bind _ = _
      simp
    exact ⟨after, _, rfl, rfl, Nat.le_succ _, empty ▸ bare⟩
  · next shape =>
    cases shape
    rw [if_pos breaks]
    exact ⟨rest, _, rfl, rfl, le_rfl, bare⟩
  · next shape => cases shape

namespace Lexer

/-- Between tokens outside of all collections. -/
def outside (cs : List Char) (m : Mark) (allowed : Bool) (taken : Nat) : Lexer :=
  ⟨⟨cs, m⟩, true, -1, [], allowed, [none], taken, []⟩

variable {m : Mark} {allowed : Bool} {taken : Nat}

/-- What follows the blanks of a margin is its comment or the end of the line. -/
theorem head_comment {comment tail : List Char} (starts : comment = [] ∨ comment.head? = some '#')
    (ends : ∀ c ∈ tail.head?, isBreak c = true) :
    ∀ c ∈ (comment ++ tail).head?, c = '#' ∨ isBreak c = true := by
  intro c first
  cases comment with
  | nil => exact .inr (ends c first)
  | cons d body =>
    rcases starts with none | hash
    · cases none
    · exact .inl ((Option.some.inj first).symm.trans (Option.some.inj hash))

/-- No margin starts with a byte order mark. -/
theorem isAt_byteOrderMark_margin {tabs : Bool} {gap rest : List Char}
    (blank : ∀ c ∈ gap, c = ' ' ∨ (tabs = true ∧ c = '\t'))
    (next : ∀ c ∈ rest.head?, c = '#' ∨ isBreak c = true) :
    (⟨gap ++ rest, m⟩ : Cursor).isAt '\ufeff' = false := by
  -- What comes first is a blank, a tab, a hash sign or the end of a line.
  cases gap with
  | nil =>
    cases rest with
    | nil => rfl
    | cons c rest =>
      have other : c ≠ '\ufeff' := by
        rintro rfl
        rcases next _ rfl with hash | breaks
        · cases hash
        · cases breaks
      simp [Cursor.isAt, other]
  | cons c more =>
    rcases blank c List.mem_cons_self with rfl | ⟨-, rfl⟩
    · rfl
    · rfl

/-- The blanks of a margin are gone over, and so are its tabs where they are allowed. -/
theorem skipWhile_gap {tabs : Bool} {gap rest : List Char}
    (blank : ∀ c ∈ gap, c = ' ' ∨ (tabs = true ∧ c = '\t'))
    (next : ∀ c ∈ rest.head?, c = '#' ∨ isBreak c = true) :
    (⟨gap ++ rest, m⟩ : Cursor).skipWhile (fun ch => ch == ' ' || (tabs && ch == '\t')) =
      ⟨rest, m.advance gap.length⟩ := by
  -- The characters of the gap pass the test, and what follows it does not.
  refine Cursor.skipWhile_append _ m (fun c member => ?_) fun c first => ?_
  · rcases blank c member with rfl | ⟨allowed, rfl⟩
    · rfl
    · simp [allowed]
  · rcases next c first with rfl | breaks
    · simp
    · have other := isBlank_eq_false_of_isBreak breaks
      simp only [isBlank, Bool.or_eq_false_iff] at other
      simp [other]

/-- The comment of a margin is gone over up to the end of its line. -/
theorem skipWhile_comment {comment tail : List Char}
    (starts : comment = [] ∨ comment.head? = some '#')
    (inside : ∀ c ∈ comment, isBreak c = false) (ends : ∀ c ∈ tail.head?, isBreak c = true) :
    (if (⟨comment ++ tail, m⟩ : Cursor).isAt '#' then
      (⟨comment ++ tail, m⟩ : Cursor).skipWhile (!isBreak ·) else ⟨comment ++ tail, m⟩) =
      ⟨tail, m.advance comment.length⟩ := by
  rcases starts with rfl | hash
  · -- Without a comment the line ends here, and a line break is no hash sign.
    have none : (⟨[] ++ tail, m⟩ : Cursor).isAt '#' = false := by
      cases tail with
      | nil => rfl
      | cons b rest =>
        have other : b ≠ '#' := by
          rintro rfl
          cases ends '#' rfl
        simp [Cursor.isAt, other]
    rw [none]
    rfl
  · have there : (⟨comment ++ tail, m⟩ : Cursor).isAt '#' = true := by
      simp [Cursor.isAt, Cursor.peek, List.head?_append, hash]
    rw [there, if_pos rfl]
    exact Cursor.skipWhile_append _ m (fun c member => by simp [inside c member])
      fun c first => by simp [ends c first]

/-- A margin is gone over up to the end of its line. -/
theorem afterBlanks_margin {l : Lexer} {margin tail : List Char}
    (cursor : l.cursor = ⟨margin ++ tail, m⟩) (block : l.inFlow = false)
    (margins : IsMargin (!l.keyAllowed) margin) (ends : ∀ c ∈ tail.head?, isBreak c = true) :
    l.afterBlanks = ⟨tail, m.advance margin.length⟩ := by
  obtain ⟨gap, comment, rfl, blank, starts, inside⟩ := margins
  have next := head_comment starts ends
  rw [List.append_assoc] at cursor
  -- Blanks are skipped up to the comment or the line break, and then the comment is.
  have gone : (⟨gap ++ (comment ++ tail), m⟩ : Cursor).skipWhile
      (fun ch => ch == ' ' || ((l.inFlow || !l.keyAllowed) && ch == '\t')) =
        ⟨comment ++ tail, m.advance gap.length⟩ := by
    rw [block, Bool.false_or]
    exact skipWhile_gap blank next
  simp only [afterBlanks, cursor, isAt_byteOrderMark_margin blank next, gone, Bool.and_false,
    Bool.false_eq_true, if_false]
  rw [skipWhile_comment starts inside ends, Mark.advance_advance, List.length_append]

/-- What is left behind characters that pass a test is no longer than before. -/
theorem length_skipWhile_le (c : Cursor) (test : Char → Bool) :
    (c.skipWhile test).rest.length ≤ c.rest.length := by
  show (c.rest.drop _).length ≤ _
  rw [List.length_drop]
  exact Nat.sub_le _ _

/-- What is left behind the blanks of a line is no longer than before. -/
theorem length_afterBlanks_le (l : Lexer) :
    l.afterBlanks.rest.length ≤ l.cursor.rest.length := by
  -- Up to three steps are taken, none of which puts anything back.
  have order : (if l.mark.index == 0 && l.cursor.isAt '\ufeff' then l.cursor.skip 1
      else l.cursor).rest.length ≤ l.cursor.rest.length := by
    split
    · show (l.cursor.rest.drop 1).length ≤ _
      rw [List.length_drop]
      exact Nat.sub_le _ _
    · exact le_rfl
  unfold afterBlanks
  dsimp only
  generalize (if l.mark.index == 0 && l.cursor.isAt '\ufeff' then l.cursor.skip 1 else l.cursor) = c
    at order ⊢
  split
  · exact ((length_skipWhile_le _ _).trans (length_skipWhile_le _ _)).trans order
  · exact (length_skipWhile_le _ _).trans order

/-- A line break is behind after it was gone over. -/
theorem length_skipBreak_lt {c : Cursor} (breaks : c.peek.any isBreak = true) :
    c.skipBreak.rest.length < c.rest.length := by
  obtain ⟨rest, m⟩ := c
  cases rest with
  | nil => cases breaks
  | cons b rest =>
    -- A carriage return with its line feed is two characters, any other break is one.
    unfold Cursor.skipBreak
    split
    · next shape =>
      cases shape
      exact Nat.lt_succ_of_lt (Nat.lt_succ_self _)
    · next shape =>
      cases shape
      rw [if_pos (by simpa using breaks)]
      exact Nat.lt_succ_self _
    · next shape => cases shape

/-- Where no text is left there is nothing to go over. -/
theorem skipToToken_nil (fuel : List Char) {l : Lexer} (nothing : l.cursor.rest = []) :
    skipToToken fuel l = l := by
  have cursor : l.cursor = ⟨blanks 0 ++ [], l.cursor.mark⟩ := by
    rw [blanks_zero, List.append_nil, ← nothing]
  rw [skipToToken_blanks fuel cursor startsToken_nil fun _ => rfl, Mark.advance_zero, ← nothing]

/-- More fuel than there is text makes no difference. -/
theorem skipToToken_fuel {fuel fuel' : List Char} {l : Lexer}
    (enough : l.cursor.rest.length ≤ fuel.length) (enough' : l.cursor.rest.length ≤ fuel'.length) :
    skipToToken fuel l = skipToToken fuel' l := by
  -- Both runs take the same steps; each step takes some text and one piece of either fuel.
  induction fuel generalizing fuel' l with
  | nil =>
    have nothing := List.eq_nil_of_length_eq_zero (Nat.le_zero.mp enough)
    rw [skipToToken_nil _ nothing, skipToToken_nil _ nothing]
  | cons f fuel ih =>
    cases fuel' with
    | nil =>
      have nothing := List.eq_nil_of_length_eq_zero (Nat.le_zero.mp enough')
      rw [skipToToken_nil _ nothing, skipToToken_nil _ nothing]
    | cons f' fuel' =>
      rw [skipToToken_cons, skipToToken_cons]
      split
      · next breaks =>
        -- The line break that is gone over makes up for the fuel.
        have shorter := length_skipBreak_lt breaks
        have margin := length_afterBlanks_le l
        rw [List.length_cons] at enough enough'
        apply ih
        · show l.afterBlanks.skipBreak.rest.length ≤ _
          omega
        · show l.afterBlanks.skipBreak.rest.length ≤ _
          omega
      · rfl

/-- Outside of all collections nothing is given up or closed on the way to a token. -/
theorem approach_of_skipToToken {l : Lexer} {cs : List Char}
    (skipped : skipToToken l.cursor.rest l = outside cs m allowed taken) :
    l.approach = .ok (outside cs m allowed taken) := by
  have removed : (outside cs m allowed taken).removeStaleKeys = .ok (outside cs m allowed taken) :=
    removeStaleKeys_old rfl (by simp)
  have low : (-1 : Int) ≤ (m.column : Nat) := by omega
  rw [approach, skipped, removed]
  exact congrArg Except.ok (closeBlocks_of_le low)

/-- The way to the next token leads over a line without tokens. -/
theorem approach_line {margin rest after : List Char} {b : Char} {m' : Mark}
    (margins : IsMargin (!allowed) margin) (breaks : isBreak b = true)
    (behind : (⟨b :: rest, m.advance margin.length⟩ : Cursor).skipBreak = ⟨after, m'⟩)
    (shorter : after.length ≤ rest.length) :
    (outside (margin ++ b :: rest) m allowed taken).approach =
      (outside after m' true taken).approach := by
  have line := afterBlanks_margin (l := outside (margin ++ b :: rest) m allowed taken) rfl rfl
    margins (by simp [breaks])
  -- The line takes more fuel than the next one has to spare, which makes no difference.
  have same : skipToToken (margin ++ b :: rest) (outside (margin ++ b :: rest) m allowed taken) =
      skipToToken after (outside after m' true taken) := by
    obtain ⟨f, fuel, shape⟩ := List.exists_cons_of_ne_nil (l := margin ++ b :: rest) (by simp)
    have length := congrArg List.length shape
    rw [List.length_append, List.length_cons, List.length_cons] at length
    rw [shape, skipToToken_cons, ← shape, line, if_pos (by simpa using breaks), behind]
    refine skipToToken_fuel ?_ le_rfl
    show after.length ≤ fuel.length
    omega
  unfold approach
  exact congrArg (fun l => Except.map _ (removeStaleKeys l)) same

/-- The way to the next token leads over a last line to the end of the text. -/
theorem approach_end {margin : List Char} (margins : IsMargin (!allowed) margin) :
    (outside margin m allowed taken).approach =
      .ok (outside [] (m.advance margin.length) allowed taken) := by
  apply approach_of_skipToToken
  have line : (outside margin m allowed taken).afterBlanks = ⟨[], m.advance margin.length⟩ :=
    afterBlanks_margin (by rw [List.append_nil]; rfl) rfl margins (by simp)
  cases margin with
  | nil => rfl
  | cons c rest =>
    show skipToToken (c :: rest) _ = _
    rw [skipToToken_cons, line]
    rfl

/-- Outside of all collections nothing is closed. -/
theorem closeBlocks_outside (l : Lexer) (low : l.indent = -1) : l.closeBlocks (-1) = l :=
  closeBlocks_of_le low.le

/-- At the end of a text the last token is taken. -/
theorem takeToken_end : ∃ done t, (outside [] m allowed taken).takeToken = .ok done ∧
    done.possibleKeys = [none] ∧ done.queue = [t] ∧ t.kind = .streamEnd := by
  have ended : (outside [] m allowed taken).takeToken = (outside [] m allowed taken).takeEnd := rfl
  -- No collection is open that would have to be closed before.
  rw [ended, takeEnd, closeBlocks_outside _ rfl]
  exact ⟨_, _, rfl, rfl, rfl, rfl⟩

/-- A marker is taken as its token. -/
theorem takeToken_marker (k : Marker) {rest : List Char} (first : m.column = 0)
    (ends : endsWord rest.head? = true) :
    (outside (k.text ++ rest) m true taken).takeToken =
      .ok ((outside rest (m.advance 3) false taken).push ⟨k.kind, m, m.advance 3⟩) := by
  rw [List.head?_eq_getElem?] at ends
  -- No block is open outside of a document, so that nothing changes but that no key may start.
  have closed : (outside (k.text ++ rest) m true taken).closeDocument =
      .ok { outside (k.text ++ rest) m true taken with keyAllowed := false } := by
    rw [closeDocument, closeBlocks_outside _ rfl]
    rfl
  have peek : (outside (k.text ++ rest) m true taken).cursor.peek = some k.char := by
    cases k <;> rfl
  have here (c : Char) : (outside (k.text ++ rest) m true taken).cursor.isAtMarker c =
      (k.char == c) := by
    simp [Cursor.isAtMarker, Cursor.peekAt, outside, first, ends, Marker.text]
  have plain : ¬((outside (k.text ++ rest) m true taken).cursor.mark.column = 0 ∧
      k.char = '%') := by
    cases k <;> simp [Marker.char]
  unfold takeToken
  dsimp only
  rw [peek, closed, here, here]
  dsimp only
  rw [if_neg plain]
  -- The two markers differ in their character, which decides on the kind of the token.
  cases k with
  | start => rfl
  | finish => rfl

/-! ### Giving tokens out -/

variable {length fuel : Nat}

/-- With an empty queue the next token is read. -/
theorem run_outside (cs : List Char) :
    run none length (fuel + 1) (outside cs m allowed taken) =
      match (outside cs m allowed taken).fetch with
      | .error e => ([], some e)
      | .ok l => run none length fuel l := by
  rw [run.eq_def]
  rfl

/-- The next token is taken where the way to it leads. -/
theorem run_of_takeToken {cs : List Char} {next done : Lexer}
    (reached : (outside cs m allowed taken).approach = .ok next)
    (took : next.takeToken = .ok done) :
    run none length (fuel + 1) (outside cs m allowed taken) = run none length fuel done := by
  have fetched : (outside cs m allowed taken).fetch = .ok done := by
    rw [fetch_eq rfl, reached]
    exact took
  rw [run_outside, fetched]

/-- What is read up to the end of the text are tokens of these kinds. -/
def Yields (length fuel : Nat) (l : Lexer) (kinds : List Token.Kind) : Prop :=
  ∃ ts, run none length fuel l = (ts, none) ∧ ts.map Token.kind = kinds

/-- On a last line without tokens only the end of the text is read. -/
theorem yields_end {margin : List Char} (margins : IsMargin (!allowed) margin) :
    Yields length (fuel + 2) (outside margin m allowed taken) [.streamEnd] := by
  obtain ⟨done, t, took, keys, queue, ends⟩ : ∃ done t,
      (outside [] (m.advance margin.length) allowed taken).takeToken = .ok done ∧
        done.possibleKeys = [none] ∧ done.queue = [t] ∧ t.kind = .streamEnd := takeToken_end
  -- One step takes the token of the end, and another gives it out.
  refine ⟨[t], ?_, by simp [ends]⟩
  rw [run_of_takeToken (approach_end margins) took]
  exact run_done length ends [] (by simp) keys queue (by simp)

/-- Over a line without tokens the others are read. -/
theorem run_line {margin rest after : List Char} {b : Char} {m' : Mark}
    (margins : IsMargin (!allowed) margin) (breaks : isBreak b = true)
    (behind : (⟨b :: rest, m.advance margin.length⟩ : Cursor).skipBreak = ⟨after, m'⟩)
    (shorter : after.length ≤ rest.length) :
    run none length (fuel + 1) (outside (margin ++ b :: rest) m allowed taken) =
      run none length (fuel + 1) (outside after m' true taken) := by
  rw [run_outside, run_outside, fetch_eq rfl, fetch_eq rfl,
    approach_line margins breaks behind shorter]

/-- A token is given out at once where no key waits for its colon. -/
theorem yields_push {cs : List Char} {t : Token} {kinds : List Token.Kind}
    (inner : t.kind ≠ .streamEnd)
    (later : Yields length fuel (outside cs m allowed (taken + 1)) kinds) :
    Yields length (fuel + 1) ((outside cs m allowed taken).push t) (t.kind :: kinds) := by
  -- There is no possible key at all, so the head of the queue cannot change.
  have given : run none length (fuel + 1) ((outside cs m allowed taken).push t) =
      (t :: (run none length fuel (outside cs m allowed (taken + 1))).1,
        (run none length fuel (outside cs m allowed (taken + 1))).2) := by
    rw [run.eq_def]
    exact if_neg inner
  obtain ⟨ts, read, same⟩ := later
  exact ⟨t :: ts, by rw [given, read], by rw [List.map_cons, same]⟩

/-- A marker is read and given out, and then what follows it is read. -/
theorem yields_marker (k : Marker) {rest : List Char} {kinds : List Token.Kind}
    (first : m.column = 0) (ends : endsWord rest.head? = true)
    (later : Yields length fuel (outside rest (m.advance 3) false (taken + 1)) kinds) :
    Yields length (fuel + 2) (outside (k.text ++ rest) m true taken) (k.kind :: kinds) := by
  have starts : StartsToken (k.text ++ rest) := by
    cases k <;> simp [Marker.text, Marker.char] <;> decide
  -- No block is open that the column could close.
  have low : (-1 : Int) ≤ (m.column : Nat) := by omega
  have reached : (outside (k.text ++ rest) m true taken).approach =
      .ok (outside (k.text ++ rest) m true taken) :=
    approach_self starts (by simp [outside]) (.inr low)
  have inner : k.kind ≠ .streamEnd := by
    cases k <;> simp [Marker.kind]
  rw [Yields, run_of_takeToken reached (takeToken_marker k first ends)]
  exact yields_push inner later

/-- After a margin the tokens of the other lines are read, if there are any. -/
theorem yields_margin (allowed : Bool) {margin tail : List Char} {ms : List Marker}
    (margins : IsMargin (!allowed) margin) (goesOn : GoesOn tail ms) (enough : 2 ≤ fuel)
    (others : ∀ after m', after.length < (margin ++ tail).length → markers? after = some ms →
      m'.column = 0 → Yields length fuel (outside after m' true taken)
        (ms.map Marker.kind ++ [.streamEnd])) :
    Yields length fuel (outside (margin ++ tail) m allowed taken)
      (ms.map Marker.kind ++ [.streamEnd]) := by
  obtain ⟨fuel, rfl⟩ := Nat.exists_eq_add_of_le' enough
  rcases goesOn with ⟨rfl, rfl⟩ | ⟨b, rest, rfl, breaks, bare⟩
  · -- On the last line there are no others, and no markers.
    rw [List.append_nil]
    exact yields_end margins
  · obtain ⟨after, m', behind, first, shorter, same⟩ :=
      skipBreak_markers breaks bare (m.advance margin.length)
    have less : after.length < (margin ++ b :: rest).length := by
      rw [List.length_append, List.length_cons]
      omega
    obtain ⟨ts, read, kinds⟩ := others after m' less same first
    exact ⟨ts, (run_line margins breaks behind shorter).trans read, kinds⟩

/-- The tokens of a text without content are those of its markers. -/
theorem yields_markers {cs : List Char} {ms : List Marker} (bare : markers? cs = some ms)
    (first : m.column = 0) (enough : cs.length + 2 ≤ fuel) :
    Yields length fuel (outside cs m true taken) (ms.map Marker.kind ++ [.streamEnd]) := by
  -- Each line break leaves a shorter text, and what is read for the lines after it is known.
  induction size : cs.length using Nat.strongRecOn generalizing cs ms m taken fuel with
  | _ n ih =>
  subst size
  obtain ⟨line, tail, here, later, rfl, within, known, rfl, goesOn⟩ := exists_line bare
  rcases bareLine?_eq_some known within with ⟨rfl, margins⟩ | ⟨k, gap, rfl, rfl, ends, margins⟩
  · -- A line without a marker adds nothing to what the others give.
    apply yields_margin true margins goesOn (by omega)
    intro after m' less same start
    exact ih _ less same start (by omega) rfl
  · -- A marker is given out at once, and no key may start on the rest of its line.
    rw [List.append_assoc] at enough ih ⊢
    have longer : (k.text ++ (gap ++ tail)).length = (gap ++ tail).length + 3 := by
      rw [List.length_append, Nat.add_comm]
      rfl
    obtain ⟨fuel, rfl⟩ := Nat.exists_eq_add_of_le' (show 2 ≤ fuel by omega)
    have ends' : endsWord (gap ++ tail).head? = true := by
      cases gap with
      | cons c more => exact ends
      | nil =>
        rcases goesOn with ⟨rfl, -⟩ | ⟨b, rest, rfl, breaks, -⟩
        · rfl
        · simp [endsWord, breaks]
    apply yields_marker k first ends'
    apply yields_margin false margins goesOn (by omega)
    intro after m' less same start
    exact ih _ (by omega) same start (by omega) rfl

/-- The start of a text is read and given out, and then what follows it is read. -/
theorem yields_start {cs : List Char} {kinds : List Token.Kind}
    (later : Yields length fuel (outside cs .start true 1) kinds) :
    Yields length (fuel + 2) (start cs) (.streamStart :: kinds) := by
  have started : run none length (fuel + 2) (start cs) =
      run none length (fuel + 1)
        ((outside cs .start true 0).push ⟨.streamStart, .start, .start⟩) := by
    rw [run.eq_def]
    rfl
  rw [Yields, started]
  exact yields_push (by simp) later

/-- The tokens of a text without content are those of its markers, between its start and its end. -/
theorem scan_markers {cs : List Char} {ms : List Marker} (bare : markers? cs = some ms)
    (readable : cs.all isReadable = true) : ∃ ts, Token.scan cs = (ts, none) ∧
      ts.map Token.kind = .streamStart :: (ms.map Marker.kind ++ [.streamEnd]) := by
  -- Two of the steps go to the start of the text.
  have enough : cs.length + 2 ≤ 8 * cs.length + 14 := by omega
  unfold Token.scan
  rw [readable_eq readable]
  exact yields_start (yields_markers bare rfl enough)

end Lexer

end ToolPolicy.Yaml
