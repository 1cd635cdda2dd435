import ToolPolicy.Proofs.Yaml.Leaf
import ToolPolicy.Proofs.Yaml.Quoted
import ToolPolicy.Yaml.Token.Lexer

/-! Reading tokens one after the other, without giving any out: how each token of a written text
changes what is known. -/

namespace ToolPolicy.Yaml

/-- A text that is empty or starts with a token. -/
def StartsToken (cs : List Char) : Prop := ∀ c ∈ cs.head?, IsSolid c ∧ c ≠ '#' ∧ c ≠ '\ufeff'

@[simp]
theorem startsToken_nil : StartsToken [] := by simp [StartsToken]

@[simp]
theorem startsToken_cons (c : Char) (rest : List Char) :
    StartsToken (c :: rest) ↔ IsSolid c ∧ c ≠ '#' ∧ c ≠ '\ufeff' := by
  simp [StartsToken]

/-- A token starts with a solid character. -/
theorem StartsToken.startsSolid {cs : List Char} (starts : StartsToken cs) : StartsSolid cs :=
  fun c member => (starts c member).1

namespace Lexer

/-! ### Between two tokens -/

/-- Goes up to the next token, gives up keys and closes block collections. -/
def approach (l : Lexer) : Except Malformed Lexer :=
  (skipToToken l.cursor.rest l).removeStaleKeys.map fun l => l.closeBlocks l.mark.column

/-- A token is read after it was approached. -/
theorem fetch_eq {l : Lexer} (started : l.started = true) :
    l.fetch = l.approach >>= takeToken := by
  unfold fetch approach
  cases (skipToToken l.cursor.rest l).removeStaleKeys <;> simp [started] <;> rfl

/-- The cursor after the blanks and the comment of a line. -/
def afterBlanks (l : Lexer) : Cursor :=
  let c := if l.mark.index == 0 && l.cursor.isAt '\ufeff' then l.cursor.skip 1 else l.cursor
  let c := c.skipWhile fun ch => ch == ' ' || ((l.inFlow || !l.keyAllowed) && ch == '\t')
  if c.isAt '#' then c.skipWhile (fun ch => !isBreak ch) else c

/-- Lines without tokens are gone over one by one. -/
theorem skipToToken_cons (ch : Char) (fuel : List Char) (l : Lexer) :
    skipToToken (ch :: fuel) l =
      if l.afterBlanks.peek.any isBreak then
        skipToToken fuel
          { l with cursor := l.afterBlanks.skipBreak, keyAllowed := !l.inFlow || l.keyAllowed }
      else { l with cursor := l.afterBlanks } := rfl

/-- No mark of byte order stands where a token, or the blanks before it, start. -/
theorem isAt_byteOrderMark {n : Nat} {rest : List Char} {m : Mark} (starts : StartsToken rest) :
    (⟨blanks n ++ rest, m⟩ : Cursor).isAt '\ufeff' = false := by
  cases n with
  | succ n => rfl
  | zero =>
    cases rest with
    | nil => rfl
    | cons c rest =>
      have other := (starts c rfl).2.2
      simpa [Cursor.isAt] using other

/-- Blanks are gone over. -/
theorem skipToToken_blanks (fuel : List Char) {l : Lexer} {n : Nat} {rest : List Char} {m : Mark}
    (cursor : l.cursor = ⟨blanks n ++ rest, m⟩) (starts : StartsToken rest)
    (enough : fuel = [] → n = 0) :
    skipToToken fuel l = { l with cursor := ⟨rest, m.advance n⟩ } := by
  cases fuel with
  | nil =>
    rw [enough rfl, blanks_zero, List.nil_append] at cursor
    rw [enough rfl, Mark.advance_zero, ← cursor]
    rfl
  | cons f fuel =>
    -- A token starts neither with a comment nor with a line break, and blanks stop before it.
    have comment : (⟨rest, m.advance n⟩ : Cursor).isAt '#' = false := by
      cases rest with
      | nil => rfl
      | cons c rest => simpa [Cursor.isAt] using (starts c rfl).2.1
    have inside : (⟨rest, m.advance n⟩ : Cursor).peek.any isBreak = false := by
      cases rest with
      | nil => rfl
      | cons c rest => exact (starts c rfl).1.2
    have skipped : (⟨blanks n ++ rest, m⟩ : Cursor).skipWhile
        (fun ch => ch == ' ' || ((l.inFlow || !l.keyAllowed) && ch == '\t')) =
          ⟨rest, m.advance n⟩ := by
      -- Spaces are skipped in every state, and a token starts with no space and no tab.
      have passed : ∀ c ∈ blanks n,
          (c == ' ' || ((l.inFlow || !l.keyAllowed) && c == '\t')) = true := by
        intro c member
        simp [List.eq_of_mem_replicate member]
      have stopped : ∀ c ∈ rest.head?,
          (c == ' ' || ((l.inFlow || !l.keyAllowed) && c == '\t')) = false := by
        intro c member
        have solid := (starts c member).1.1
        simp only [isBlank, Bool.or_eq_false_iff] at solid
        simp [solid]
      have gone := Cursor.skipWhile_append _ m passed stopped
      rwa [length_blanks] at gone
    simp only [skipToToken, cursor, isAt_byteOrderMark starts, Bool.and_false, Bool.false_eq_true,
      if_false, skipped, comment, inside]

/-- A line break and the blanks after it are gone over, and a key may start. -/
theorem skipToToken_break {l : Lexer} {n : Nat} {rest : List Char} {m : Mark}
    (cursor : l.cursor = ⟨'\n' :: (blanks n ++ rest), m⟩) (starts : StartsToken rest)
    (block : l.inFlow = false) :
    skipToToken l.cursor.rest l =
      { l with cursor := ⟨rest, (m.nextLine 1).advance n⟩, keyAllowed := true } := by
  have skipped : (⟨'\n' :: (blanks n ++ rest), m⟩ : Cursor).skipWhile
      (fun ch => ch == ' ' || ((l.inFlow || !l.keyAllowed) && ch == '\t')) =
        ⟨'\n' :: (blanks n ++ rest), m⟩ :=
    Cursor.skipWhile_eq_self _ m (by simp)
  have feed : isBreak '\n' = true := rfl
  have comment : (⟨'\n' :: (blanks n ++ rest), m⟩ : Cursor).isAt '#' = false := rfl
  have order : (⟨'\n' :: (blanks n ++ rest), m⟩ : Cursor).isAt '\ufeff' = false := rfl
  have beyond : (⟨'\n' :: (blanks n ++ rest), m⟩ : Cursor).skipBreak =
      ⟨blanks n ++ rest, m.nextLine 1⟩ := rfl
  -- After the line break only blanks are left to be gone over.
  have next := skipToToken_blanks (blanks n ++ rest)
    (l := { l with cursor := ⟨blanks n ++ rest, m.nextLine 1⟩, keyAllowed := true })
    rfl starts (by cases n <;> simp [blanks_succ])
  rw [cursor]
  simp only [skipToToken, cursor, order, Bool.and_false, Bool.false_eq_true, if_false,
    skipped, comment, Cursor.peek_cons, Option.any_some, feed, if_true, beyond]
  simpa only [block, Bool.not_false, Bool.true_or] using next

/-- Where the next token of a block collection starts: the text from there on, the column, the
columns of the open collections, whether a key may start, and the tokens so far. -/
inductive At (rest : List Char) (column : Nat) (indent : Int) (outers : List Int) (allowed : Bool)
    (kinds : List Token.Kind) : Lexer → Prop where
  | intro (m : Mark) (queue : List Token) (reached : m.column = column)
      (same : queue.map Token.kind = kinds) (unfinished : .streamEnd ∉ kinds) :
      At rest column indent outers allowed kinds
        ⟨⟨rest, m⟩, true, indent, outers, allowed, [none], 0, queue⟩

/-- The start of a line at a column, where the collections further right are closed. -/
def Closed (rest : List Char) (column : Nat) : Int → List Int → List Token.Kind → Lexer → Prop
  | indent, [], kinds =>
    if indent ≤ column then At rest column indent [] true kinds
    else At rest column (-1) [] true (kinds ++ [.blockEnd])
  | indent, outer :: outers, kinds =>
    if indent ≤ column then At rest column indent (outer :: outers) true kinds
    else Closed rest column outer outers (kinds ++ [.blockEnd])

/-- Collections that are not further right stay open. -/
theorem closed_of_le {rest : List Char} {column : Nat} {indent : Int} {outers : List Int}
    {kinds : List Token.Kind} (inside : indent ≤ column) :
    Closed rest column indent outers kinds = At rest column indent outers true kinds := by
  cases outers <;> rw [Closed, if_pos inside]

/-- A collection that is further right is closed. -/
theorem closed_of_lt {rest : List Char} {column : Nat} {indent outer : Int} {outers : List Int}
    {kinds : List Token.Kind} (left : column < indent) :
    Closed rest column indent (outer :: outers) kinds =
      Closed rest column outer outers (kinds ++ [.blockEnd]) := by
  rw [Closed, if_neg (by omega)]

/-- Collections are closed by a token each. -/
theorem closeTo_closed (rest : List Char) {column : Nat} {m : Mark} (queue : List Token)
    (indent : Int) (outers : List Int) (reached : m.column = column)
    (unfinished : .streamEnd ∉ queue.map Token.kind) (indent' : Int) (outers' : List Int) :
    Closed rest column indent outers (queue.map Token.kind)
      (closeTo column indent outers
        ⟨⟨rest, m⟩, true, indent', outers', true, [none], 0, queue⟩) := by
  -- The tokens grow by one for each collection around that is closed.
  induction outers generalizing indent queue with
  | nil =>
    unfold closeTo Closed
    split
    · exact ⟨m, queue, reached, rfl, unfinished⟩
    -- The outermost collection is closed by a token as well.
    · refine At.intro m (queue ++ [⟨.blockEnd, m, m⟩]) reached ?_ ?_
      · simp
      · simpa using unfinished
  | cons outer outers ih =>
    unfold closeTo Closed
    split
    · exact ⟨m, queue, reached, rfl, unfinished⟩
    · have later := ih (queue ++ [⟨.blockEnd, m, m⟩]) outer (by simpa using unfinished)
      simpa [push, mark] using later

/-! ### Keys that may have started -/

/-- A key that can no longer be one is given up. -/
theorem removeStaleKeys_old {l : Lexer} {key? : Option PossibleKey} (keys : l.possibleKeys = [key?])
    (old : ∀ key ∈ key?, key.isRequired = false ∧ key.mark.line < l.mark.line) :
    l.removeStaleKeys = .ok { l with possibleKeys := [none] } := by
  unfold removeStaleKeys
  rw [keys]
  cases key? with
  | none => rfl
  -- The key stands on an earlier line, and it is given up since it is optional.
  | some key =>
    obtain ⟨optional, line⟩ := old key rfl
    have stale : l.isStale key = true := by simp [isStale, line]
    simp [optional, stale]

/-- Keys that started a short way back in the line may still be ones. -/
theorem removeStaleKeys_recent {l : Lexer}
    (recent : ∀ key? ∈ l.possibleKeys, ∀ key ∈ key?,
      key.mark.line = l.mark.line ∧ l.mark.index ≤ key.mark.index + maxKeyLength) :
    l.removeStaleKeys = .ok l := by
  -- A key goes stale at the end of its line, or after too many characters.
  have fresh : ∀ key? ∈ l.possibleKeys, ∀ key ∈ key?, l.isStale key = false := by
    intro key? member key inside
    obtain ⟨line, near⟩ := recent key? member key inside
    simp [isStale, line, near]
  have none : l.possibleKeys.reverse.find?
      (fun key => key.any fun k => l.isStale k && k.isRequired) = none := by
    rw [List.find?_eq_none]
    intro key? member
    cases key? with
    | none => simp
    | some key => simp [fresh _ (List.mem_reverse.mp member) key rfl]
  -- No key is stale, so that each of them stays.
  have kept : l.possibleKeys.map (·.filter fun k => !l.isStale k) = l.possibleKeys := by
    conv_rhs => rw [← List.map_id l.possibleKeys]
    apply List.map_congr_left
    intro key? member
    cases key? with
    | none => rfl
    | some key => simp [Option.filter, fresh _ member key rfl]
  unfold removeStaleKeys
  rw [none, kept]

/-! ### Ends of lines -/

/-- After the last token of a line: the line break may have been read with the token. -/
inductive Rests (rest : List Char) (column : Nat) (indent : Int) (outers : List Int)
    (kinds : List Token.Kind) : Lexer → Prop where
  | landed (m : Mark) (key? : Option PossibleKey) (queue : List Token) (reached : m.column = column)
      (old : ∀ key ∈ key?, key.isRequired = false ∧ key.mark.line < m.line)
      (same : queue.map Token.kind = kinds) :
      Rests rest column indent outers kinds
        ⟨⟨rest, m⟩, true, indent, outers, true, [key?], 0, queue⟩
  | broken (m : Mark) (key? : Option PossibleKey) (allowed : Bool) (queue : List Token)
      (old : ∀ key ∈ key?, key.isRequired = false ∧ key.mark.line ≤ m.line)
      (same : queue.map Token.kind = kinds) :
      Rests rest column indent outers kinds
        ⟨⟨'\n' :: (blanks column ++ rest), m⟩, true, indent, outers, allowed, [key?], 0, queue⟩

/-- The next token after the end of a line starts where the collections further right are closed. -/
theorem Rests.approach {rest : List Char} {column : Nat} {indent : Int} {outers : List Int}
    {kinds : List Token.Kind} {l : Lexer} (rests : Rests rest column indent outers kinds l)
    (starts : StartsToken rest) (unfinished : .streamEnd ∉ kinds) :
    ∃ next, l.approach = .ok next ∧ Closed rest column indent outers kinds next := by
  cases rests with
  | landed m key? queue reached old same =>
    -- The line break is behind, so that nothing is gone over.
    have skipped := skipToToken_blanks rest (n := 0)
      (l := ⟨⟨rest, m⟩, true, indent, outers, true, [key?], 0, queue⟩) rfl starts (fun _ => rfl)
    have removed := removeStaleKeys_old
      (l := ⟨⟨rest, m⟩, true, indent, outers, true, [key?], 0, queue⟩) rfl old
    have closed := closeTo_closed rest queue indent outers reached (same ▸ unfinished) indent outers
    refine ⟨_, ?_, same ▸ closed⟩
    simp only [Lexer.approach, skipped, Mark.advance_zero, removed, Except.map, closeBlocks, inFlow,
      mark, reached]
    rfl
  | broken m key? allowed queue old same =>
    -- The line break and the indentation lead to the token, on another line than the keys.
    have skipped := skipToToken_break (n := column) (m := m)
      (l := ⟨⟨'\n' :: (blanks column ++ rest), m⟩, true, indent, outers, allowed, [key?], 0, queue⟩)
      rfl starts rfl
    have removed := removeStaleKeys_old
      (l := ⟨⟨rest, (m.nextLine 1).advance column⟩, true, indent, outers, true, [key?], 0, queue⟩)
      rfl (fun key member => ⟨(old key member).1, Nat.lt_succ_of_le (old key member).2⟩)
    have reached : ((m.nextLine 1).advance column).column = column := by simp
    have closed := closeTo_closed rest queue indent outers reached (same ▸ unfinished) indent outers
    refine ⟨_, ?_, same ▸ closed⟩
    simp only [Lexer.approach, skipped, removed, Except.map, closeBlocks, inFlow, mark, reached]
    rfl

/-! ### Runs of tokens -/

/-- So many tokens are read one after the other, and none of them ends the text. -/
inductive Moves : Nat → Lexer → Lexer → Prop where
  | refl (l : Lexer) : Moves 0 l l
  | step {n : Nat} {l taken next last : Lexer} (unfinished : ∀ t ∈ l.queue, t.kind ≠ .streamEnd)
      (took : l.takeToken = .ok taken) (reached : taken.approach = .ok next)
      (others : Moves n next last) : Moves (n + 1) l last

/-- Runs of tokens follow one another. -/
theorem Moves.trans {a b : Nat} {l middle last : Lexer} (first : Moves a l middle)
    (second : Moves b middle last) : Moves (a + b) l last := by
  induction first with
  | refl l => simpa using second
  | step unfinished took reached others ih =>
    rw [Nat.add_right_comm]
    exact .step unfinished took reached (ih second)

/-- Tokens lead from every state of one kind to a state of another. None is read in vain: each one
adds to the queue. -/
def Leads (before after : Lexer → Prop) : Prop :=
  ∀ l, before l → ∃ n last, Moves n l last ∧ n + l.queue.length ≤ last.queue.length ∧ after last

/-- What leads to a state leads on from there. -/
theorem Leads.trans {first second third : Lexer → Prop} (front : Leads first second)
    (back : Leads second third) : Leads first third := by
  intro l start
  obtain ⟨a, middle, moves, longer, reached⟩ := front l start
  obtain ⟨b, last, moves', longer', reached'⟩ := back middle reached
  exact ⟨a + b, last, moves.trans moves', by omega, reached'⟩

/-- Closing collections only adds tokens. -/
theorem prefix_closeTo (column indent : Int) (outers : List Int) (l : Lexer) :
    l.queue <+: (closeTo column indent outers l).queue := by
  -- One token is added for each collection that is closed.
  induction outers generalizing indent l with
  | nil =>
    unfold closeTo
    split
    · exact List.prefix_rfl
    · exact List.prefix_append _ _
  | cons outer outers ih =>
    unfold closeTo
    split
    · exact List.prefix_rfl
    · exact (List.prefix_append _ _).trans (ih outer (l.push ⟨.blockEnd, l.mark, l.mark⟩))

/-- Going over blanks and line breaks reads no token. -/
theorem queue_skipToToken (fuel : List Char) (l : Lexer) :
    (skipToToken fuel l).queue = l.queue := by
  induction fuel generalizing l with
  | nil => rfl
  | cons ch fuel ih =>
    rw [skipToToken_cons]
    split
    · rw [ih]
    · rfl

/-- No token gets lost on the way to the next one. -/
theorem prefix_of_approach {l next : Lexer} (reached : l.approach = .ok next) :
    l.queue <+: next.queue := by
  unfold approach removeStaleKeys at reached
  split at reached
  · cases reached
  · obtain rfl := Except.ok.inj reached
    -- Neither going over text nor giving up keys changes the queue.
    rw [← queue_skipToToken l.cursor.rest l]
    unfold closeBlocks
    dsimp only
    split
    · exact List.prefix_rfl
    · refine .trans ?_ (prefix_closeTo _ _ _ _)
      exact List.prefix_rfl

/-- One token leads to the end of its line. -/
theorem leads_of_step {first last : Lexer → Prop}
    (step : ∀ l, first l → (∀ t ∈ l.queue, t.kind ≠ .streamEnd) ∧
      ∃ taken next, l.takeToken = .ok taken ∧ l.queue.length < taken.queue.length ∧
        taken.approach = .ok next ∧ last next) : Leads first last := by
  intro l start
  obtain ⟨unfinished, taken, next, took, longer, reached, done⟩ := step l start
  -- Tokens that were added stay on the way to the next token.
  have kept := (prefix_of_approach reached).length_le
  exact ⟨1, next, .step unfinished took reached (.refl next), by omega, done⟩

/-! ### Before tokens -/

/-- Where no collection is further right nothing is closed. -/
theorem closeBlocks_of_le {column : Int} {l : Lexer} (inside : l.indent ≤ column) :
    l.closeBlocks column = l := by
  unfold closeBlocks
  split
  · rfl
  · unfold closeTo
    rw [if_pos inside]

/-- From every state of one kind the way to the next token leads to a state of another. -/
def Reaches (before after : Lexer → Prop) : Prop :=
  ∀ l, before l → ∃ next, l.approach = .ok next ∧ after next

variable {rest : List Char} {column k : Nat} {indent : Int} {outers : List Int} {allowed : Bool}
  {kinds : List Token.Kind} {l : Lexer}

/-- The blank before a token is gone over. -/
theorem reaches_blank (starts : StartsToken rest) (inside : indent ≤ column) :
    Reaches (At (' ' :: rest) column indent outers allowed kinds)
      (At rest (column + 1) indent outers allowed kinds) := by
  rintro _ ⟨m, queue, reached, same, unfinished⟩
  have skipped := skipToToken_blanks (' ' :: rest) (n := 1) (m := m)
    (l := ⟨⟨' ' :: rest, m⟩, true, indent, outers, allowed, [none], 0, queue⟩) rfl starts (by simp)
  -- No key was started, so that none is given up.
  have removed := removeStaleKeys_old
    (l := ⟨⟨rest, m.advance 1⟩, true, indent, outers, allowed, [none], 0, queue⟩) rfl (by simp)
  refine ⟨⟨⟨rest, m.advance 1⟩, true, indent, outers, allowed, [none], 0, queue⟩, ?_,
    ⟨m.advance 1, queue, by simp [reached], same, unfinished⟩⟩
  have inside : indent ≤ (m.advance 1).column := by
    rw [Mark.column_advance]
    omega
  simp only [approach, skipped, removed, Except.map, mark]
  rw [closeBlocks_of_le inside]

/-- The line break before a token is gone over with the indentation of the token. -/
theorem reaches_break (starts : StartsToken rest) (inside : indent ≤ k) :
    Reaches (At ('\n' :: (blanks k ++ rest)) column indent outers allowed kinds)
      (At rest k indent outers true kinds) := by
  rintro _ ⟨m, queue, -, same, unfinished⟩
  -- The line ends with its break still ahead and no key started.
  have rests : Rests rest k indent outers kinds
      ⟨⟨'\n' :: (blanks k ++ rest), m⟩, true, indent, outers, allowed, [none], 0, queue⟩ :=
    .broken m none allowed queue (by simp) same
  obtain ⟨next, reached, closed⟩ := rests.approach starts unfinished
  rw [closed_of_le inside] at closed
  exact ⟨next, reached, closed⟩

/-- Every token that is known waits in the queue. -/
theorem Rests.length_eq (rests : Rests rest column indent outers kinds l) :
    l.queue.length = kinds.length := by
  cases rests with
  | landed m key? queue reached old same => rw [← same, List.length_map]
  | broken m key? allowed queue old same => rw [← same, List.length_map]

/-- No token of an unfinished text ends it. -/
theorem At.unfinished (start : At rest column indent outers allowed kinds l) :
    ∀ t ∈ l.queue, t.kind ≠ .streamEnd := by
  obtain ⟨m, queue, -, same, unfinished⟩ := start
  intro t member last
  exact unfinished (same ▸ last ▸ List.mem_map_of_mem member)

/-- Every token that is known waits in the queue. -/
theorem At.length_eq (start : At rest column indent outers allowed kinds l) :
    l.queue.length = kinds.length := by
  obtain ⟨m, queue, -, same, -⟩ := start
  rw [← same, List.length_map]

/-- Where a token starts already nothing changes on the way to it. -/
theorem approach_self (starts : StartsToken l.cursor.rest)
    (recent : ∀ key? ∈ l.possibleKeys, ∀ key ∈ key?,
      key.mark.line = l.mark.line ∧ l.mark.index ≤ key.mark.index + maxKeyLength)
    (inside : l.inFlow = true ∨ l.indent ≤ l.mark.column) : l.approach = .ok l := by
  have skipped : skipToToken l.cursor.rest l = l :=
    skipToToken_blanks l.cursor.rest (n := 0) rfl starts (fun _ => rfl)
  have open_ : l.closeBlocks l.mark.column = l := by
    rcases inside with flow | inside
    · rw [closeBlocks, if_pos flow]
    · exact closeBlocks_of_le inside
  rw [approach, skipped, removeStaleKeys_recent recent, Except.map, open_]

/-! ### Indicators -/

/-- The token that opens a block collection at a column, unless it is open. -/
def opening (indent : Int) (column : Nat) (kind : Token.Kind) : List Token.Kind :=
  if indent < column then [kind] else []

/-- The columns around the collection at a column. -/
def around (indent : Int) (column : Nat) (outers : List Int) : List Int :=
  if indent < column then indent :: outers else outers

/-- A block collection is opened at its first indicator. -/
theorem openBlock_eq {c : Cursor} {key? : Option PossibleKey} {queue : List Token}
    (kind : Token.Kind) (mark : Mark) (inside : indent ≤ column) :
    openBlock ⟨c, true, indent, outers, allowed, [key?], 0, queue⟩ column none kind mark =
      ⟨c, true, column, around indent column outers, allowed, [key?], 0,
        queue ++ (opening indent column kind).map fun kind => ⟨kind, mark, mark⟩⟩ := by
  unfold openBlock around opening
  -- A collection that is further right is opened, and one at the same column is open.
  by_cases outside : indent < column
  · simp [inFlow, push, outside, not_le.mpr outside]
  · have same : indent = column := by omega
    simp [inFlow, same]

/-- Opening a collection does not end the text. -/
theorem streamEnd_not_mem_opening {kind : Token.Kind} (inner : kind ≠ .streamEnd) :
    .streamEnd ∉ opening indent column kind := by
  unfold opening
  split <;> simp [inner.symm]

/-- What follows a token leads to the next one. -/
theorem leads_of_reaches {text after : List Char} {column' : Nat} {indent' : Int}
    {outers' : List Int} {allowed' : Bool} {more : List Token.Kind} {last : Lexer → Prop}
    (step : ∀ l, At text column indent outers allowed kinds l → ∃ taken, l.takeToken = .ok taken ∧
      At after column' indent' outers' allowed' (kinds ++ more) taken)
    (some : more ≠ [])
    (reaches : Reaches (At after column' indent' outers' allowed' (kinds ++ more)) last) :
    Leads (At text column indent outers allowed kinds) last := by
  apply leads_of_step
  intro l start
  obtain ⟨taken, took, at_⟩ := step l start
  obtain ⟨next, reached, done⟩ := reaches taken at_
  -- The token adds to the queue, as leading asks for.
  have longer := List.length_pos_iff.mpr some
  refine ⟨start.unfinished, taken, next, took, ?_, reached, done⟩
  rw [start.length_eq, at_.length_eq, List.length_append]
  omega

/-- The dash of an entry. -/
theorem takeToken_dash {m : Mark} (cursor : l.cursor = ⟨'-' :: ' ' :: rest, m⟩) :
    l.takeToken = l.takeBlockEntry := by
  unfold takeToken
  rw [cursor]
  simp [Cursor.isAtMarker, endsWord, isBlank]

/-- The question mark of a key. -/
theorem takeToken_question {m : Mark} (cursor : l.cursor = ⟨'?' :: ' ' :: rest, m⟩) :
    l.takeToken = l.takeKey := by
  unfold takeToken
  rw [cursor]
  simp [Cursor.isAtMarker, endsWord, isBlank]

/-- The colon of a value. -/
theorem takeToken_colon {m : Mark} (cursor : l.cursor = ⟨':' :: rest, m⟩)
    (apart : endsWord rest.head? = true) : l.takeToken = l.takeValue := by
  unfold takeToken
  rw [cursor]
  simp [Cursor.isAtMarker, apart]

/-- An indicator leads to what follows it, with the tokens of what it opens before its own. -/
theorem leads_indicator {c : Char} {kind : Token.Kind} (opened kinds : List Token.Kind)
    {outers outers' : List Int} (starts : StartsToken rest)
    (inner : .streamEnd ∉ opened ++ [kind])
    (takes : ∀ (m : Mark) (queue : List Token), m.column = column →
      takeToken ⟨⟨c :: ' ' :: rest, m⟩, true, indent, outers, true, [none], 0, queue⟩ =
        .ok ⟨⟨' ' :: rest, m.advance 1⟩, true, column, outers', true, [none], 0,
          queue ++ opened.map (fun kind => ⟨kind, m, m⟩) ++ [⟨kind, m, m.advance 1⟩]⟩) :
    Leads (At (c :: ' ' :: rest) column indent outers true kinds)
      (At rest (column + 2) column outers' true (kinds ++ (opened ++ [kind]))) := by
  refine leads_of_reaches ?_ (by simp) (reaches_blank starts (by omega))
  rintro _ ⟨m, queue, reached, same, unfinished⟩
  refine ⟨_, takes m queue reached, ⟨m.advance 1, queue ++ opened.map (fun kind => ⟨kind, m, m⟩) ++
    [⟨kind, m, m.advance 1⟩], ?_, ?_, ?_⟩⟩
  · simp [reached]
  · simp [← same, Function.comp_def]
  · rw [List.mem_append, not_or]
    exact ⟨unfinished, inner⟩

/-- A dash leads to the item after it, and the first one opens the sequence. -/
theorem leads_dash (outers : List Int) (kinds : List Token.Kind) (starts : StartsToken rest)
    (inside : indent ≤ column) :
    Leads (At ('-' :: ' ' :: rest) column indent outers true kinds)
      (At rest (column + 2) column (around indent column outers) true
        (kinds ++ (opening indent column .blockSequenceStart ++ [.blockEntry]))) := by
  refine leads_indicator _ kinds starts ?_ fun m queue reached => ?_
  · simpa using streamEnd_not_mem_opening (by simp)
  · rw [takeToken_dash rfl]
    simp only [takeBlockEntry, mark, reached, openBlock_eq _ _ inside]
    simp [inFlow, removeKey, key, take, push, mark, bind, Except.bind, pure, Except.pure]

/-- A question mark leads to the key after it, and the first one opens the mapping. -/
theorem leads_question (outers : List Int) (kinds : List Token.Kind) (starts : StartsToken rest)
    (inside : indent ≤ column) :
    Leads (At ('?' :: ' ' :: rest) column indent outers true kinds)
      (At rest (column + 2) column (around indent column outers) true
        (kinds ++ (opening indent column .blockMappingStart ++ [.key]))) := by
  refine leads_indicator _ kinds starts ?_ fun m queue reached => ?_
  · simpa using streamEnd_not_mem_opening (by simp)
  · rw [takeToken_question rfl]
    simp only [takeKey, mark, reached, openBlock_eq _ _ inside]
    simp [inFlow, removeKey, key, take, push, mark, bind, Except.bind, pure, Except.pure]

/-- A colon at the start of a line leads to the value after it. -/
theorem leads_colon (column : Nat) (outers : List Int) (kinds : List Token.Kind)
    (starts : StartsToken rest) :
    Leads (At (':' :: ' ' :: rest) column column outers true kinds)
      (At rest (column + 2) column outers true (kinds ++ [.value])) := by
  -- The mapping was opened by the key, so that the colon opens nothing.
  refine leads_indicator [] kinds starts (by simp) fun m queue reached => ?_
  rw [takeToken_colon rfl (by rfl)]
  simp [takeValue, mark, reached, openBlock, inFlow, key, take, push]

end Lexer

end ToolPolicy.Yaml
