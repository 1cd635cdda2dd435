import ToolPolicy.Proofs.Yaml.Lexer

/-! Giving tokens out while the others are read changes none of them. -/

namespace ToolPolicy.Yaml.Lexer

/-- The same reader after it has given out some of its tokens. -/
def lag (given : List Token) (l : Lexer) : Lexer :=
  { l with queue := l.queue.drop given.length, taken := l.taken + given.length }

/-- Whether tokens can be given out: they come first, and no key may have started at one of them. -/
structure Spares (given : List Token) (l : Lexer) : Prop where
  started : l.started = true
  first : given <+: l.queue
  ahead : ∀ key? ∈ l.possibleKeys, ∀ key ∈ key?, l.taken + given.length ≤ key.number

/-- What a reader does is done as well by the one that has given out tokens. -/
def Follows (given : List Token) (x y : Except Malformed Lexer) : Prop :=
  match x with
  | .error e => y = .error e
  | .ok l => Spares given l ∧ y = .ok (lag given l)

section

variable {given : List Token} {l : Lexer}

/-! ### Single changes -/

@[simp]
theorem lag_cursor : (lag given l).cursor = l.cursor := rfl

@[simp]
theorem lag_mark : (lag given l).mark = l.mark := rfl

@[simp]
theorem lag_inFlow : (lag given l).inFlow = l.inFlow := rfl

@[simp]
theorem lag_indent : (lag given l).indent = l.indent := rfl

@[simp]
theorem lag_outerIndents : (lag given l).outerIndents = l.outerIndents := rfl

@[simp]
theorem lag_keyAllowed : (lag given l).keyAllowed = l.keyAllowed := rfl

@[simp]
theorem lag_possibleKeys : (lag given l).possibleKeys = l.possibleKeys := rfl

@[simp]
theorem lag_key : (lag given l).key = l.key := rfl

/-- Adding a token. -/
theorem lag_push (enough : given.length ≤ l.queue.length) (t : Token) :
    (lag given l).push t = lag given (l.push t) := by
  simp [lag, push, List.drop_append_of_le_length enough]

/-- What can be given out waits in the queue. -/
theorem Spares.enough (spares : Spares given l) : given.length ≤ l.queue.length :=
  spares.first.length_le

/-- What changes but the tokens and the keys does not matter. -/
theorem Spares.moved (spares : Spares given l) {c : Cursor} {indent : Int} {outers : List Int}
    {allowed : Bool} : Spares given
      { l with cursor := c, indent := indent, outerIndents := outers, keyAllowed := allowed } :=
  ⟨spares.started, spares.first, spares.ahead⟩

/-- Adding a token keeps the others. -/
theorem Spares.push (spares : Spares given l) (t : Token) : Spares given (l.push t) :=
  ⟨spares.started, spares.first.trans (List.prefix_append _ _), spares.ahead⟩

/-- Taking a token. -/
theorem lag_take (enough : given.length ≤ l.queue.length) (length : Nat) (kind : Token.Kind) :
    (lag given l).take length kind = lag given (l.take length kind) := by
  simp only [take, lag_push enough, lag_cursor, lag_mark]
  rfl

/-- Taking a token keeps the others. -/
theorem Spares.take (spares : Spares given l) (length : Nat) (kind : Token.Kind) :
    Spares given (l.take length kind) :=
  (spares.push ⟨kind, l.mark, (l.cursor.skip length).mark⟩).moved

/-- Adding a token before one that was not given out. -/
theorem lag_insertBefore (spares : Spares given l) {number : Nat}
    (ahead : l.taken + given.length ≤ number)
    (t : Token) : (lag given l).insertBefore number t = lag given (l.insertBefore number t) := by
  have enough := spares.enough
  -- The place is counted from the first token of the text on both sides.
  obtain ⟨place, rfl⟩ := Nat.exists_eq_add_of_le ahead
  have before : l.taken + given.length + place - l.taken = given.length + place := by omega
  have after : l.taken + given.length + place - (l.taken + given.length) = place := by omega
  have front : given.length ≤ (l.queue.take (given.length + place)).length := by
    rw [List.length_take]
    omega
  simp only [lag, insertBefore, before, after, List.drop_append_of_le_length front, List.drop_take,
    List.drop_drop, Nat.add_sub_cancel_left]

/-- Adding a token before one that was not given out keeps the others. -/
theorem Spares.insertBefore (spares : Spares given l) {number : Nat}
    (ahead : l.taken + given.length ≤ number) (t : Token) :
    Spares given (l.insertBefore number t) := by
  -- The new token comes behind those that were given out.
  have front : given <+: l.queue.take (number - l.taken) :=
    List.prefix_take_iff.mpr ⟨spares.first, by omega⟩
  exact ⟨spares.started, front.trans (List.prefix_append _ _), spares.ahead⟩

/-- A key that starts later comes after what was given out. -/
theorem Spares.setKey (spares : Spares given l) (key? : Option PossibleKey)
    (ahead : ∀ key ∈ key?, l.taken + given.length ≤ key.number) : Spares given (l.setKey key?) := by
  refine ⟨spares.started, spares.first, fun other member => ?_⟩
  rcases List.mem_cons.mp member with rfl | member
  · exact ahead
  · exact spares.ahead other (List.mem_of_mem_tail member)

/-! ### Steps that may fail -/

namespace Follows

variable {x y : Except Malformed Lexer} {f g : Lexer → Except Malformed Lexer}

/-- What succeeds is done by both. -/
theorem ok (spares : Spares given l) : Follows given (.ok l) (.ok (lag given l)) := ⟨spares, rfl⟩

/-- What fails fails for both. -/
theorem error (e : Malformed) : Follows given (.error e) (.error e) := rfl

/-- Steps follow one another. -/
theorem bind (first : Follows given x y)
    (second : ∀ l, Spares given l → Follows given (f l) (g (lag given l))) :
    Follows given (x >>= f) (y >>= g) := by
  cases x with
  | error e =>
    obtain rfl : y = .error e := first
    rfl
  | ok l =>
    obtain ⟨spares, rfl⟩ : Spares given l ∧ y = .ok (lag given l) := first
    exact second l spares

/-- A change that both make follows a step. -/
theorem map {change : Lexer → Lexer} (first : Follows given x y)
    (same :
      ∀ l, Spares given l → change (lag given l) = lag given (change l) ∧ Spares given (change l)) :
    Follows given (x.map change) (y.map change) := by
  cases x with
  | error e =>
    obtain rfl : y = .error e := first
    rfl
  | ok l =>
    obtain ⟨spares, rfl⟩ : Spares given l ∧ y = .ok (lag given l) := first
    obtain ⟨moved, spares'⟩ := same l spares
    exact ⟨spares', congrArg Except.ok moved⟩

/-- Both take the same branch. -/
theorem ite {c : Prop} [Decidable c] {x' y' : Except Malformed Lexer}
    (first : c → Follows given x y)
    (second : ¬c → Follows given x' y') :
    Follows given (if c then x else x') (if c then y else y') := by
  split
  · next holds => exact first holds
  · next fails => exact second fails

end Follows

/-- Giving up the key that may have started. -/
theorem follows_removeKey (spares : Spares given l) :
    Follows given l.removeKey (lag given l).removeKey := by
  unfold removeKey
  rw [lag_key]
  split
  · next key _ =>
    refine .ite (fun _ => ?_) fun _ => ?_
    · exact .error _
    · exact .ok (spares.setKey none (by simp))
  · exact .ok spares

/-- Noting that a key may start. -/
theorem follows_saveKey (spares : Spares given l) :
    Follows given l.saveKey (lag given l).saveKey := by
  have enough := spares.enough
  have number : (lag given l).taken + (lag given l).queue.length = l.taken + l.queue.length := by
    simp only [lag, List.length_drop]
    omega
  -- The new key starts after all tokens that are known.
  have noted {required : Bool} {l' : Lexer} (spares' : Spares given l')
      (same : l'.taken = l.taken) :
      Follows given (.ok (l'.setKey (some ⟨required, l.taken + l.queue.length, l.mark⟩)))
        (.ok (lag given (l'.setKey (some ⟨required, l.taken + l.queue.length, l.mark⟩)))) := by
    refine .ok (spares'.setKey _ fun key member => ?_)
    obtain rfl := Option.mem_some.mp member
    rw [same]
    exact Nat.add_le_add_left enough l.taken
  unfold saveKey removeKey
  rw [lag_keyAllowed, number]
  refine .ite (fun _ => ?_) fun _ => .ok spares
  rw [lag_key]
  split
  · split
    · exact .error _
    · exact noted (spares.setKey none (by simp)) rfl
  · exact noted spares rfl

/-- Opening a block collection. -/
theorem lag_openBlock (spares : Spares given l) (column : Nat) (kind : Token.Kind) (mark : Mark)
    (number : Option Nat) (ahead : ∀ n ∈ number, l.taken + given.length ≤ n) :
    (lag given l).openBlock column number kind mark =
      lag given (l.openBlock column number kind mark) ∧
      Spares given (l.openBlock column number kind mark) := by
  have moved :
      Spares given { l with indent := column, outerIndents := l.indent :: l.outerIndents } :=
    spares.moved
  unfold openBlock
  -- Whether a block is opened depends on the columns, which both lexers share.
  rw [lag_inFlow, lag_indent, lag_outerIndents]
  split
  · exact ⟨rfl, spares⟩
  · cases number with
    | none => exact ⟨lag_push moved.enough _, moved.push _⟩
    | some n => exact ⟨lag_insertBefore moved (ahead n rfl) _, moved.insertBefore (ahead n rfl) _⟩

/-- Closing block collections. -/
theorem lag_closeTo (spares : Spares given l) (column indent : Int) (outers : List Int) :
    closeTo column indent outers (lag given l) = lag given (closeTo column indent outers l) ∧
      Spares given (closeTo column indent outers l) := by
  -- Each collection that is closed adds its token behind those that were given out.
  induction outers generalizing indent l with
  | nil =>
    unfold closeTo
    split
    · exact ⟨rfl, spares.moved⟩
    · have pushed := spares.push ⟨.blockEnd, l.mark, l.mark⟩
      dsimp only
      rw [lag_mark, lag_push spares.enough]
      exact ⟨rfl, pushed.moved⟩
  | cons outer outers ih =>
    unfold closeTo
    split
    · exact ⟨rfl, spares.moved⟩
    · dsimp only
      rw [lag_mark, lag_push spares.enough]
      exact ih (spares.push _) outer

/-- Closing block collections. -/
theorem lag_closeBlocks (spares : Spares given l) (column : Int) :
    (lag given l).closeBlocks column = lag given (l.closeBlocks column) ∧
      Spares given (l.closeBlocks column) := by
  unfold closeBlocks
  rw [lag_inFlow]
  split
  · exact ⟨rfl, spares⟩
  · exact lag_closeTo spares _ _ _

/-- Taking a token that was read. -/
theorem follows_takeRead (spares : Spares given l) (scan : Scan Token) :
    Follows given (l.takeRead scan) ((lag given l).takeRead scan) := by
  unfold takeRead
  cases scan with
  | error e => exact .error e
  | ok read =>
    obtain ⟨token, after⟩ := read
    have pushed := spares.push token
    simp only [Except.map, lag_push spares.enough]
    exact .ok (l := { l.push token with cursor := after }) pushed.moved

/-- Taking a token after changes that spare the ones given out. -/
theorem follows_take (spares : Spares given l) (length : Nat) (kind : Token.Kind) :
    Follows given (.ok (l.take length kind)) (.ok ((lag given l).take length kind)) := by
  rw [lag_take spares.enough]
  exact .ok (spares.take length kind)

/-! ### Tokens -/

/-- The end of a document. -/
theorem follows_closeDocument (spares : Spares given l) :
    Follows given l.closeDocument (lag given l).closeDocument := by
  obtain ⟨closed, spares'⟩ := lag_closeBlocks spares (-1)
  unfold closeDocument
  rw [closed]
  refine (follows_removeKey spares').bind fun l' spares'' => ?_
  exact .ok (l := { l' with keyAllowed := false }) spares''.moved

/-- The end of a text. -/
theorem follows_takeEnd (spares : Spares given l) :
    Follows given l.takeEnd (lag given l).takeEnd := by
  have moved (m : Mark) : Spares given { l with cursor := { l.cursor with mark := m } } :=
    spares.moved
  obtain ⟨closed, spares'⟩ := lag_closeBlocks
    (moved (if l.mark.column = 0 then l.mark else ⟨l.mark.index, l.mark.line + 1, 0⟩)) (-1)
  unfold takeEnd
  refine Follows.bind (f := fun l => pure ({ l with keyAllowed := false }.take 0 .streamEnd))
    (x := removeKey _) (closed ▸ follows_removeKey spares') fun l' spares'' => ?_
  exact follows_take (l := { l' with keyAllowed := false }) spares''.moved 0 _

/-- An opening bracket. -/
theorem follows_openFlow (spares : Spares given l) (kind : Token.Kind) :
    Follows given (l.openFlow kind) ((lag given l).openFlow kind) := by
  unfold openFlow
  refine (follows_saveKey spares).bind fun l' spares' => ?_
  refine follows_take (l := { l' with possibleKeys := none :: l'.possibleKeys, keyAllowed := true })
    ⟨spares'.started, spares'.first, fun key? member => ?_⟩ 1 kind
  -- The collection starts without a key, and the keys outside of it stay.
  rcases List.mem_cons.mp member with rfl | member
  · simp
  · exact spares'.ahead key? member

/-- A closing bracket. -/
theorem follows_closeFlow (spares : Spares given l) (kind : Token.Kind) :
    Follows given (l.closeFlow kind) ((lag given l).closeFlow kind) := by
  unfold closeFlow
  -- The key of the collection that is closed goes with it.
  refine (follows_removeKey spares).bind fun l' spares' => ?_
  refine follows_take (l := { l' with
      possibleKeys := if l'.inFlow then l'.possibleKeys.tail else l'.possibleKeys
      keyAllowed := false }) ⟨spares'.started, spares'.first, fun key? member => ?_⟩ 1 kind
  dsimp only at member
  split at member
  · exact spares'.ahead key? (List.mem_of_mem_tail member)
  · exact spares'.ahead key? member

/-- A comma. -/
theorem follows_takeFlowEntry (spares : Spares given l) :
    Follows given l.takeFlowEntry (lag given l).takeFlowEntry := by
  unfold takeFlowEntry
  refine (follows_removeKey spares).bind fun l' spares' => ?_
  exact follows_take (l := { l' with keyAllowed := true }) spares'.moved 1 _

/-- A dash. -/
theorem follows_takeBlockEntry (spares : Spares given l) :
    Follows given l.takeBlockEntry (lag given l).takeBlockEntry := by
  obtain ⟨opened, spares'⟩ :=
    lag_openBlock spares l.mark.column .blockSequenceStart l.mark none (by simp)
  unfold takeBlockEntry
  refine .ite (fun _ => .error _) fun _ => ?_
  rw [lag_mark, opened]
  refine (follows_removeKey spares').bind fun l' spares'' => ?_
  exact follows_take (l := { l' with keyAllowed := true }) spares''.moved 1 _

/-- A question mark. -/
theorem follows_takeKey (spares : Spares given l) :
    Follows given l.takeKey (lag given l).takeKey := by
  obtain ⟨opened, spares'⟩ :=
    lag_openBlock spares l.mark.column .blockMappingStart l.mark none (by simp)
  unfold takeKey
  refine .ite (fun _ => .error _) fun _ => ?_
  rw [lag_mark, opened]
  refine (follows_removeKey spares').bind fun l' spares'' => ?_
  exact follows_take (l := { l' with keyAllowed := !l'.inFlow }) spares''.moved 1 _

/-- A colon. -/
theorem follows_takeValue (spares : Spares given l) :
    Follows given l.takeValue (lag given l).takeValue := by
  unfold takeValue
  rw [lag_key]
  split
  · next key started =>
    -- The place of the key lies behind the tokens that were given out.
    have ahead : l.taken + given.length ≤ key.number := by
      cases keys : l.possibleKeys with
      | nil => simp [Lexer.key, keys] at started
      | cons key? others =>
        have same : key? = some key := by simpa [Lexer.key, keys] using started
        exact spares.ahead key? (by simp [keys]) key (by simp [same])
    have inserted := spares.insertBefore ahead ⟨.key, key.mark, key.mark⟩
    obtain ⟨opened, spares'⟩ := lag_openBlock inserted key.mark.column .blockMappingStart key.mark
      (some key.number) (fun n member => Option.mem_some.mp member ▸ ahead)
    dsimp only
    rw [lag_insertBefore spares ahead, opened]
    have cleared := spares'.setKey none (by simp)
    exact follows_take (l := { setKey _ none with keyAllowed := false })
      cleared.moved 1 _
  · -- Without a key before it, a colon opens a mapping by itself.
    refine .ite (fun _ => .error _) fun _ => ?_
    obtain ⟨opened, spares'⟩ := lag_openBlock spares l.mark.column .blockMappingStart l.mark none
      (by simp)
    dsimp only
    rw [lag_mark, opened]
    exact follows_take (l := { openBlock _ _ none _ _ with keyAllowed := !inFlow _ })
      spares'.moved 1 _

/-- Something that may be a key or start one. -/
theorem follows_takeNode (spares : Spares given l) (scan : Scan Token) :
    Follows given (l.takeNode scan) ((lag given l).takeNode scan) := by
  unfold takeNode
  -- A key may start here, which is noted before the node is read.
  refine (follows_saveKey spares).bind fun l' spares' => ?_
  exact follows_takeRead (l := { l' with keyAllowed := false }) spares'.moved scan

/-- A block scalar. -/
theorem follows_takeBlockScalar (spares : Spares given l) (folded : Bool) :
    Follows given (l.takeBlockScalar folded) ((lag given l).takeBlockScalar folded) := by
  unfold takeBlockScalar
  refine (follows_removeKey spares).bind fun l' spares' => ?_
  exact follows_takeRead (l := { l' with keyAllowed := true }) spares'.moved _

/-- A plain scalar. -/
theorem follows_takePlain (spares : Spares given l) :
    Follows given l.takePlain (lag given l).takePlain := by
  unfold takePlain
  refine (follows_saveKey spares).bind fun l' spares' => ?_
  -- What is read depends on the place and the indentation alone.
  rw [lag_inFlow, lag_indent, lag_cursor]
  cases Flow.readPlain l'.inFlow l'.indent l'.cursor with
  | error e => exact .error e
  | ok read =>
    obtain ⟨⟨token, broken⟩, after⟩ := read
    have pushed := spares'.push token
    simp only [bind, Except.bind, lag_push spares'.enough]
    exact .ok (l := { l'.push token with cursor := after, keyAllowed := broken })
      pushed.moved

/-- Any token. -/
theorem follows_takeToken (spares : Spares given l) :
    Follows given l.takeToken (lag given l).takeToken := by
  unfold takeToken
  dsimp only
  rw [lag_cursor, lag_inFlow]
  split
  · exact follows_takeEnd spares
  · -- Every kind of token is told by what stands at the cursor.
    refine .ite (fun _ => ?_) fun _ => .ite (fun _ => ?_) fun _ => .ite (fun _ => ?_) fun _ =>
      .ite (fun _ => follows_openFlow spares _) fun _ =>
      .ite (fun _ => follows_openFlow spares _) fun _ =>
      .ite (fun _ => follows_closeFlow spares _) fun _ =>
      .ite (fun _ => follows_closeFlow spares _) fun _ =>
      .ite (fun _ => follows_takeFlowEntry spares) fun _ =>
      .ite (fun _ => follows_takeBlockEntry spares) fun _ =>
      .ite (fun _ => follows_takeKey spares) fun _ =>
      .ite (fun _ => follows_takeValue spares) fun _ =>
      .ite (fun _ => follows_takeNode spares _) fun _ =>
      .ite (fun _ => follows_takeNode spares _) fun _ =>
      .ite (fun _ => follows_takeNode spares _) fun _ =>
      .ite (fun _ => follows_takeBlockScalar spares _) fun _ =>
      .ite (fun _ => follows_takeBlockScalar spares _) fun _ =>
      .ite (fun _ => follows_takeNode spares _) fun _ =>
      .ite (fun _ => follows_takeNode spares _) fun _ =>
      .ite (fun _ => follows_takePlain spares) fun _ => .error _
    · exact (follows_closeDocument spares).bind fun l' spares' => follows_takeRead spares' _
    · exact (follows_closeDocument spares).map fun l' spares' =>
        ⟨lag_take spares'.enough 3 _, spares'.take 3 _⟩
    · exact (follows_closeDocument spares).map fun l' spares' =>
        ⟨lag_take spares'.enough 3 _, spares'.take 3 _⟩

/-! ### Between tokens -/

/-- Whether a place comes later in the text, or is the same. -/
def Ahead (m m' : Mark) : Prop := m.line ≤ m'.line ∧ m.index ≤ m'.index

/-- Going over characters goes ahead. -/
theorem ahead_skip (c : Cursor) (n : Nat) : Ahead c.mark (c.skip n).mark :=
  ⟨le_rfl, Nat.le_add_right _ _⟩

/-- Going over characters goes ahead. -/
theorem ahead_skipWhile (c : Cursor) (test : Char → Bool) : Ahead c.mark (c.skipWhile test).mark :=
  ⟨le_rfl, Nat.le_add_right _ _⟩

/-- Going over a line break goes ahead. -/
theorem ahead_skipBreak (c : Cursor) : Ahead c.mark c.skipBreak.mark := by
  unfold Cursor.skipBreak
  -- A carriage return may take a line feed along; where no break stands nothing is gone over.
  split
  · exact ⟨Nat.le_succ _, Nat.le_add_right _ _⟩
  · split
    · exact ⟨Nat.le_succ _, Nat.le_add_right _ _⟩
    · exact ⟨le_rfl, le_rfl⟩
  · exact ⟨le_rfl, le_rfl⟩

/-- Places come later one after the other. -/
theorem Ahead.trans {a b c : Mark} (first : Ahead a b) (second : Ahead b c) : Ahead a c :=
  ⟨first.1.trans second.1, first.2.trans second.2⟩

/-- Going over the blanks of a line goes ahead. -/
theorem ahead_afterBlanks (l : Lexer) : Ahead l.mark l.afterBlanks.mark := by
  -- A byte order mark may come first.
  have order : Ahead l.mark
      (if l.mark.index == 0 && l.cursor.isAt '\ufeff' then l.cursor.skip 1 else l.cursor).mark := by
    split
    · exact ahead_skip _ _
    · exact ⟨le_rfl, le_rfl⟩
  unfold afterBlanks
  dsimp only
  generalize (if l.mark.index == 0 && l.cursor.isAt '\ufeff' then l.cursor.skip 1 else l.cursor) = c
    at order ⊢
  split
  · exact (order.trans (ahead_skipWhile _ _)).trans (ahead_skipWhile _ _)
  · exact order.trans (ahead_skipWhile _ _)

/-- Going to the next token changes the place, and may allow a key. -/
theorem exists_skipToToken (fuel : List Char) (l : Lexer) : ∃ c allowed,
    skipToToken fuel l = { l with cursor := c, keyAllowed := allowed } ∧ Ahead l.mark c.mark := by
  -- Each line break that is gone over takes one round.
  induction fuel generalizing l with
  | nil => exact ⟨l.cursor, l.keyAllowed, rfl, le_rfl, le_rfl⟩
  | cons ch fuel ih =>
    rw [skipToToken_cons]
    split
    · obtain ⟨c, allowed, same, ahead⟩ := ih
        { l with cursor := l.afterBlanks.skipBreak, keyAllowed := !l.inFlow || l.keyAllowed }
      exact ⟨c, allowed, same,
        ((ahead_afterBlanks l).trans (ahead_skipBreak l.afterBlanks)).trans ahead⟩
    · exact ⟨l.afterBlanks, l.keyAllowed, rfl, ahead_afterBlanks l⟩

/-- Blanks and line breaks are gone over alike. -/
theorem lag_skipToToken (fuel : List Char) (l : Lexer) :
    skipToToken fuel (lag given l) = lag given (skipToToken fuel l) := by
  -- Where the reader stands depends on the text alone, not on the queue.
  induction fuel generalizing l with
  | nil => rfl
  | cons ch fuel ih =>
    have same : (lag given l).afterBlanks = l.afterBlanks := rfl
    rw [skipToToken_cons, skipToToken_cons, same]
    split
    · exact ih { l with cursor := l.afterBlanks.skipBreak, keyAllowed := !l.inFlow || l.keyAllowed }
    · rfl

/-- The reader without the keys that pass a test. -/
def forget (test : PossibleKey → Bool) (l : Lexer) : Lexer :=
  { l with possibleKeys := l.possibleKeys.map (·.filter fun k => !test k) }

@[simp]
theorem forget_cursor (test : PossibleKey → Bool) : (l.forget test).cursor = l.cursor := rfl

@[simp]
theorem forget_queue (test : PossibleKey → Bool) : (l.forget test).queue = l.queue := rfl

/-- Keys are given up alike. -/
theorem follows_removeStaleKeys (spares : Spares given l) :
    Follows given l.removeStaleKeys (lag given l).removeStaleKeys := by
  have kept : Spares given (l.forget l.isStale) := by
    refine ⟨spares.started, spares.first, fun key? member key inside => ?_⟩
    obtain ⟨before, known, rfl⟩ := List.mem_map.mp member
    exact spares.ahead before known key (Option.mem_filter_iff.mp inside).1
  unfold removeStaleKeys
  -- Whether a key is stale hangs on the place alone.
  have same : (lag given l).possibleKeys.reverse.find?
        (fun key => key.any fun k => (lag given l).isStale k && k.isRequired) =
      l.possibleKeys.reverse.find? (fun key => key.any fun k => l.isStale k && k.isRequired) := rfl
  rw [same]
  split
  · exact .error _
  · exact .ok kept

/-- The way to the next token is the same. -/
theorem follows_approach (spares : Spares given l) :
    Follows given l.approach (lag given l).approach := by
  have moved : Spares given (skipToToken l.cursor.rest l) := by
    obtain ⟨c, allowed, same, -⟩ := exists_skipToToken l.cursor.rest l
    rw [same]
    exact spares.moved
  unfold approach
  rw [lag_cursor, lag_skipToToken]
  exact (follows_removeStaleKeys moved).map fun l' spares' => lag_closeBlocks spares' _

/-! ### Keys that are given up early -/

/-- Keys can be given up unless one of them is required. -/
theorem removeStaleKeys_eq_ok_iff {l' : Lexer} : l.removeStaleKeys = .ok l' ↔
    (∀ key? ∈ l.possibleKeys, ∀ key ∈ key?, l.isStale key = true → key.isRequired = false) ∧
      l' = l.forget l.isStale := by
  unfold removeStaleKeys
  split
  · next key found =>
    -- A key was found that is stale and required.
    have member := List.mem_of_find?_eq_some found
    have stale := List.find?_some found
    simp only [Option.any_some, Bool.and_eq_true] at stale
    refine ⟨nofun, fun ⟨optional, _⟩ => ?_⟩
    have free := optional _ (List.mem_reverse.mp member) key rfl stale.1
    rw [free] at stale
    cases stale.2
  · next missing =>
    have optional : ∀ key? ∈ l.possibleKeys, ∀ key ∈ key?,
        l.isStale key = true → key.isRequired = false := by
      intro key? member key inside stale
      rw [Option.mem_def] at inside
      subst inside
      cases found : l.possibleKeys.reverse.find?
          (fun key => key.any fun k => l.isStale k && k.isRequired) with
      | none =>
        have free := List.find?_eq_none.mp found (some key) (List.mem_reverse.mpr member)
        simpa [stale] using free
      | some other =>
        cases other with
        | none => cases List.find?_some found
        | some other => exact (missing other found).elim
    exact ⟨fun same => ⟨optional, (Except.ok.inj same).symm⟩,
      fun ⟨_, same⟩ => by rw [same, forget]⟩

/-- What has become stale stays so. -/
theorem isStale_of_ahead {l' : Lexer} (ahead : Ahead l.mark l'.mark) {key : PossibleKey}
    (stale : l.isStale key = true) : l'.isStale key = true := by
  obtain ⟨line, index⟩ := ahead
  simp only [isStale, Bool.or_eq_true, decide_eq_true_eq] at stale ⊢
  omega

/-- The way to the next token does not depend on the keys that may have started. -/
theorem skipToToken_keys (fuel : List Char) (l : Lexer) {keys : List (Option PossibleKey)}
    (same : keys.length = l.possibleKeys.length) :
    skipToToken fuel { l with possibleKeys := keys } =
      { skipToToken fuel l with possibleKeys := keys } := by
  -- Each round goes over one line.
  induction fuel generalizing l with
  | nil => rfl
  | cons ch fuel ih =>
    -- Only the number of the keys counts: it tells whether a flow collection is open.
    have flow : inFlow { l with possibleKeys := keys } = l.inFlow := by simp [inFlow, same]
    have blanks : afterBlanks { l with possibleKeys := keys } = l.afterBlanks := by
      simp only [afterBlanks, flow, mark]
      rfl
    rw [skipToToken_cons, skipToToken_cons, blanks, flow]
    split
    · exact ih { l with cursor := l.afterBlanks.skipBreak, keyAllowed := !l.inFlow || l.keyAllowed }
        same
    · rfl

/-- Keys that would be given up later can be given up before. -/
theorem forget_forget {early late : PossibleKey → Bool}
    (stays : ∀ key, early key = true → late key = true) (l : Lexer) :
    (l.forget early).forget late = l.forget late := by
  simp only [forget, List.map_map, Lexer.mk.injEq, true_and, and_true]
  refine List.map_congr_left fun key? _ => ?_
  -- What the first test drops the second one would drop as well.
  cases key? with
  | none => rfl
  | some key =>
    cases found : early key with
    | false => simp [Option.filter, found]
    | true => simp [Option.filter, found, stays key found]

/-- Stale keys are given up as well where some of them were given up before. -/
theorem removeStaleKeys_forget {early : PossibleKey → Bool} {next : Lexer}
    (removed : l.removeStaleKeys = .ok next)
    (stays : ∀ key, early key = true → l.isStale key = true) :
    (l.forget early).removeStaleKeys = .ok next := by
  obtain ⟨optional, rfl⟩ := removeStaleKeys_eq_ok_iff.mp removed
  refine removeStaleKeys_eq_ok_iff.mpr ⟨fun key? member key inside stale => ?_, ?_⟩
  · obtain ⟨before, known, rfl⟩ := List.mem_map.mp member
    exact optional before known key (Option.mem_filter_iff.mp inside).1 stale
  · exact (forget_forget stays l).symm

/-- Keys that are given up before the way to the next token would be given up on it. -/
theorem approach_of_removeStaleKeys {next : Lexer} (reached : l.approach = .ok next) :
    ∃ l', l.removeStaleKeys = .ok l' ∧ l'.approach = .ok next := by
  obtain ⟨c, allowed, skipped, ahead⟩ := exists_skipToToken l.cursor.rest l
  obtain ⟨there, arrived⟩ : ∃ there, there = { l with cursor := c, keyAllowed := allowed } :=
    ⟨_, rfl⟩
  rw [← arrived] at skipped
  have stays (key : PossibleKey) (stale : l.isStale key = true) : there.isStale key = true :=
    isStale_of_ahead (arrived ▸ ahead) stale
  have skipped' : skipToToken l.cursor.rest (l.forget l.isStale) = there.forget l.isStale := by
    rw [forget, skipToToken_keys _ _ (List.length_map _), skipped, arrived]
    rfl
  rw [approach, skipped] at reached
  cases removed : there.removeStaleKeys with
  | error e =>
    rw [removed] at reached
    cases reached
  | ok rest =>
    have optional := (removeStaleKeys_eq_ok_iff.mp removed).1
    rw [arrived] at optional
    refine ⟨l.forget l.isStale, removeStaleKeys_eq_ok_iff.mpr ⟨fun key? member key inside stale =>
      optional key? member key inside (arrived ▸ stays key stale), rfl⟩, ?_⟩
    -- On the way no key is missed that was given up before.
    rw [approach, forget_cursor, skipped', removeStaleKeys_forget removed stays, ← removed]
    exact reached

/-! ### Giving tokens out -/

/-- The last token is read: it ends the text, and no token before it does. -/
structure Finishes (last done : Lexer) : Prop where
  unfinished : ∀ t ∈ last.queue, t.kind ≠ .streamEnd
  took : last.takeToken = .ok done
  keys : done.possibleKeys = [none]
  ends : ∃ before t, done.queue = before ++ [t] ∧ t.kind = .streamEnd ∧
    ∀ u ∈ before, u.kind ≠ .streamEnd

/-- No token on the way to the last one ends the text. -/
theorem Moves.unfinished {n : Nat} {last : Lexer} (moves : Moves n l last)
    (unfinished : ∀ t ∈ last.queue, t.kind ≠ .streamEnd) : ∀ t ∈ l.queue, t.kind ≠ .streamEnd := by
  -- Each move starts from tokens of which none ends the text.
  cases moves with
  | refl => exact unfinished
  | step unfinished _ _ _ => exact unfinished

/-- When all tokens are known they are given out one by one. -/
theorem run_done (length : Nat) {t : Token} (ends : t.kind = .streamEnd) (before : List Token)
    (inner : ∀ u ∈ before, u.kind ≠ .streamEnd) (keys : l.possibleKeys = [none])
    (queue : l.queue = before ++ [t]) {fuel : Nat} (enough : before.length < fuel) :
    run none length fuel l = (before ++ [t], none) := by
  -- Giving out a token leaves a queue that is shorter by it.
  induction before generalizing l fuel with
  | nil =>
    obtain ⟨fuel, rfl⟩ := Nat.exists_eq_succ_of_ne_zero (Nat.ne_zero_of_lt enough)
    have kept := removeStaleKeys_old keys (by simp)
    rw [List.nil_append] at queue
    rw [run.eq_def]
    simp [queue, kept, headMayChange, ends]
  | cons u before ih =>
    obtain ⟨fuel, rfl⟩ := Nat.exists_eq_succ_of_ne_zero (Nat.ne_zero_of_lt enough)
    obtain ⟨first, others⟩ := List.forall_mem_cons.mp inner
    have kept := removeStaleKeys_old keys (by simp)
    have later := ih (l := { l with
        queue := before ++ [t], possibleKeys := [none], taken := l.taken + 1 })
      others rfl rfl (Nat.lt_of_succ_lt_succ enough)
    rw [run.eq_def]
    simp [queue, kept, headMayChange, first, later]

/-- One more token is read on the way to the last one, or the last one itself. -/
theorem fetch_lag {n : Nat} {next last done : Lexer} (spares : Spares given l)
    (reached : l.approach = .ok next) (moves : Moves n next last) (finishes : Finishes last done) :
    (n = 0 ∧ Spares given done ∧ (lag given l).fetch = .ok (lag given done)) ∨
      ∃ m l' next', n = m + 1 ∧ Spares given l' ∧ (lag given l).fetch = .ok (lag given l') ∧
        l'.approach = .ok next' ∧ Moves m next' last := by
  have approached := follows_approach spares
  rw [reached] at approached
  obtain ⟨spares', same⟩ := approached
  -- Fetching goes to the next token first, and then takes it.
  have fetched : (lag given l).fetch = (lag given next).takeToken := by
    rw [fetch_eq (l := lag given l) spares.started, same]
    rfl
  have taken := follows_takeToken spares'
  cases moves with
  | refl =>
    rw [finishes.took] at taken
    exact .inl ⟨rfl, taken.1, fetched.trans taken.2⟩
  | @step m _ l' next' _ unfinished took reached' others =>
    rw [took] at taken
    exact .inr ⟨m, l', next', rfl, taken.1, fetched.trans taken.2, reached', others⟩

/-- What can be given out comes first among all tokens. -/
theorem Spares.finished {n : Nat} {next last done : Lexer} (spares : Spares given l)
    (reached : l.approach = .ok next) (moves : Moves n next last) (finishes : Finishes last done) :
    given <+: done.queue := by
  -- Every token that is fetched leaves one move fewer to go.
  induction n generalizing l next with
  | zero =>
    rcases fetch_lag spares reached moves finishes with ⟨-, spares', -⟩ | ⟨m, _, _, zero, -⟩
    · exact spares'.first
    · cases zero
  | succ n ih =>
    rcases fetch_lag spares reached moves finishes with
      ⟨zero, -⟩ | ⟨m, l', next', same, spares', -, reached', others⟩
    · cases zero
    · obtain rfl := Nat.succ.inj same
      exact ih spares' reached' others

/-- Once a text was read the tokens that wait are given out. -/
theorem run_lag_done {last done : Lexer} (finishes : Finishes last done)
    (spares : Spares given done) (inner : ∀ u ∈ given, u.kind ≠ .streamEnd) (length : Nat)
    {fuel : Nat} (enough : done.queue.length < given.length + fuel) :
    run none length fuel (lag given done) = (done.queue.drop given.length, none) := by
  obtain ⟨before, t, queue, ends, others⟩ := finishes.ends
  have first := spares.first
  rw [queue, List.prefix_concat_iff] at first
  rcases first with whole | ⟨rest, rfl⟩
  · -- The last token cannot be among those that were given out.
    exact absurd ends (inner t (by simp [whole]))
  · have left : done.queue.drop given.length = rest ++ [t] := by simp [queue]
    rw [left]
    refine run_done length ends rest (fun u member => others u (by simp [member])) ?_ left ?_
    · exact finishes.keys
    · rw [queue] at enough
      simp only [List.length_append, List.length_singleton] at enough
      omega

/-- A token can be given out once no key can start at it any more. -/
theorem Spares.give (spares : Spares given l) {head : Token} {rest : List Token}
    (queue : l.queue = given ++ head :: rest) (settled : (lag given l).headMayChange = false) :
    Spares (given ++ [head]) l := by
  refine ⟨spares.started, ⟨rest, by simp [queue]⟩, fun key? member key inside => ?_⟩
  -- A key at the head itself would be one that the reader still waits for.
  have later := spares.ahead key? member key inside
  have other : key.number ≠ l.taken + given.length := by
    intro same
    simp only [headMayChange, List.any_eq_false] at settled
    exact settled key? member (by simp [Option.mem_def.mp inside, same, lag])
  rw [List.length_append, List.length_singleton]
  omega

/-- The reader that has given out one token more. -/
theorem lag_concat {head : Token} {rest : List Token} (queue : l.queue = given ++ head :: rest) :
    { lag given l with queue := rest, taken := (lag given l).taken + 1 } =
      lag (given ++ [head]) l := by
  simp [lag, queue, Nat.add_assoc]

/-- Whether with so much fuel the tokens that are left are given out in the order of the text. -/
def Delivers (length fuel : Nat) (last done : Lexer) : Prop :=
  ∀ {n : Nat} {given : List Token} {l next : Lexer}, Spares given l → l.approach = .ok next →
    Moves n next last → n + 1 + done.queue.length < given.length + fuel →
    run none length fuel (lag given l) = (done.queue.drop given.length, none)

/-- After one more token was read the others are given out. -/
theorem Delivers.fetchBefore {length fuel n : Nat} {next last done : Lexer}
    (delivers : Delivers length fuel last done) (finishes : Finishes last done)
    (spares : Spares given l) (inner : ∀ t ∈ l.queue, t.kind ≠ .streamEnd)
    (reached : l.approach = .ok next) (moves : Moves n next last)
    (enough : n + 1 + done.queue.length < given.length + (fuel + 1)) :
    (match (lag given l).fetchBefore none length with
      | .error e => ([], some e)
      | .ok l => run none length fuel l) = (done.queue.drop given.length, none) := by
  unfold Lexer.fetchBefore
  dsimp only
  -- Either nothing is left to be fetched, or the lexer goes on from the token that was.
  rcases fetch_lag spares reached moves finishes with
    ⟨rfl, spares', fetched⟩ | ⟨m, l', next', rfl, spares', fetched, reached', others⟩
  · rw [fetched]
    exact run_lag_done finishes spares' (fun u member => inner u (spares.first.subset member))
      length (by omega)
  · rw [fetched]
    exact delivers spares' reached' others (by omega)

/-- All tokens are given out in the order of the text: those that wait for a colon come no later. -/
theorem delivers {done last : Lexer} (finishes : Finishes last done) (length fuel : Nat) :
    Delivers length fuel last done := by
  -- Every round reads a token, which takes a move, or gives out the head of the queue.
  induction fuel with
  | zero =>
    intro n given l next _ _ _ enough
    rw [List.drop_eq_nil_of_le (by omega), run]
  | succ fuel ih =>
    intro n given l next spares reached moves enough
    have inner : ∀ t ∈ l.queue, t.kind ≠ .streamEnd := fun t member =>
      moves.unfinished finishes.unfinished t ((prefix_of_approach reached).subset member)
    obtain ⟨rest, queue⟩ := spares.first
    have waiting : (lag given l).queue = rest := by simp [lag, ← queue]
    rw [run.eq_def]
    dsimp only
    rw [waiting]
    cases rest with
    | nil => exact ih.fetchBefore finishes spares inner reached moves enough
    | cons head rest =>
      -- Before the head is looked at, keys are given up that could still start there.
      obtain ⟨l', removed, reached'⟩ := approach_of_removeStaleKeys reached
      have removedToo := follows_removeStaleKeys spares
      rw [removed] at removedToo
      obtain ⟨spares', removedToo⟩ := removedToo
      obtain ⟨-, shape⟩ := removeStaleKeys_eq_ok_iff.mp removed
      have queue' : l'.queue = given ++ head :: rest := by rw [shape, forget_queue, queue]
      dsimp only
      rw [removedToo]
      dsimp only
      split
      · exact ih.fetchBefore finishes spares' (by rwa [queue', queue]) reached' moves enough
      · next settled =>
        have unfinished := inner head (by simp [← queue])
        have spares'' := spares'.give queue' (by simpa using settled)
        have later := ih spares'' reached' moves (by simp; omega)
        obtain ⟨others, whole⟩ := spares''.finished reached' moves finishes
        rw [if_neg unfinished, lag_concat queue', later, ← whole]
        simp

end

end ToolPolicy.Yaml.Lexer
