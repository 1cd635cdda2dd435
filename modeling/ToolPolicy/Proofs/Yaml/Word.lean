import ToolPolicy.Proofs.Yaml.Lexer

/-! Tokens of scalars: to the end of their lines as values, and up to the colon as keys. -/

namespace ToolPolicy.Yaml.Lexer

open ToolPolicy.Yaml.Flow ToolPolicy.Yaml.Block

variable {cs rest tail : List Char} {column k : Nat} {indent : Int} {outers : List Int}
  {allowed : Bool} {kinds : List Token.Kind} {queue : List Token} {m : Mark} {l : Lexer}

/-! ### Which token it is -/

/-- A plain scalar starts with no indicator, unless a solid character follows it. -/
theorem start_of_allowsPlain {c : Char} (allowed : allowsPlain (c :: rest) = true)
    (tail : List Char) :
    c ∉ startIndicators ∧
      ((c = '-' ∨ c = '?' ∨ c = ':') → endsWord (rest ++ tail).head? = false) := by
  have safe := (plainRest_of_allowsPlain (List.cons_ne_nil c rest) allowed).safe
  rw [neighbourhoods, List.any_cons, Bool.or_eq_false_iff] at safe
  have first := safe.1
  unfold isIndicator at first
  simp only [Option.isNone_none, if_true] at first
  rw [Bool.or_eq_false_iff] at first
  obtain ⟨indicator, joined⟩ := first
  refine ⟨by simpa using indicator, fun special => ?_⟩
  -- The three special characters are indicators where a blank follows them.
  have sign : (c == '?' || c == ':' || c == '-') = true := by
    rcases special with rfl | rfl | rfl <;> rfl
  rw [sign, Bool.true_and] at joined
  -- What follows the first character is a part of the scalar.
  cases rest with
  | nil => cases joined
  | cons d rest => simpa [isSpaceOrEnd, endsWord] using joined

/-- A plain scalar may start with its first character. -/
theorem startsPlain_of_allowsPlain {c : Char} (allowed : allowsPlain (c :: rest) = true)
    (tail : List Char) : startsPlain false c (rest ++ tail).head? = true := by
  obtain ⟨indicator, joined⟩ := start_of_allowsPlain allowed tail
  have solid := (plainRest_of_allowsPlain (List.cons_ne_nil c rest) allowed).startsSolid []
  rw [List.cons_append, startsSolid_cons] at solid
  generalize (rest ++ tail).head? = next at joined ⊢
  -- These three start a word only where the next character joins them to it.
  by_cases special : c = '-' ∨ c = '?' ∨ c = ':'
  · have apart := joined special
    have blank : next.any isBlank = false := by
      cases next with
      | none => rfl
      | some d =>
        simp only [endsWord, Bool.or_eq_false_iff] at apart
        exact apart.1
    rcases special with rfl | rfl | rfl <;> simp [startsPlain, blank, apart]
  -- Any other first character is free unless it is an indicator, which is ruled out.
  · have free : c ∉ reserved := by
      simp only [startIndicators, List.mem_cons, List.not_mem_nil, or_false, not_or] at indicator
      simp only [reserved, List.mem_cons, List.not_mem_nil, or_false, not_or]
      tauto
    simp [startsPlain, solid.1, solid.2, free]

/-- A plain scalar is taken as one. -/
theorem takeToken_plain {width : Nat} (cursor : l.cursor = ⟨cs ++ tail, m⟩) (nonempty : cs ≠ [])
    (allowed : allowsPlain cs = true) (follows : FollowsPlain width tail)
    (block : l.inFlow = false) : l.takeToken = l.takePlain := by
  have marker := isAtAnyMarker_of_allowsPlain (m := m) allowed follows
  rw [Cursor.isAtAnyMarker, Bool.or_eq_false_iff] at marker
  obtain ⟨c, rest, rfl⟩ := List.exists_cons_of_ne_nil nonempty
  obtain ⟨indicator, joined⟩ := start_of_allowsPlain allowed tail
  have starts := startsPlain_of_allowsPlain allowed tail
  simp only [startIndicators, List.mem_cons, List.not_mem_nil, or_false, not_or] at indicator
  rw [List.cons_append] at cursor marker
  have next : (⟨c :: (rest ++ tail), m⟩ : Cursor).peekAt 1 = (rest ++ tail).head? :=
    Cursor.peekAt_one_cons c (rest ++ tail) m
  generalize (rest ++ tail).head? = next? at joined starts next
  -- The tests for a dash, a question mark and a colon come first, and each looks for a blank then.
  have alone (special : c = '-' ∨ c = '?' ∨ c = ':') : endsWord next? = false := joined special
  have dash : ¬(c = '-' ∧ endsWord next? = true) := by
    rintro ⟨special, apart⟩
    simp [alone (.inl special)] at apart
  have question : ¬(c = '?' ∧ endsWord next? = true) := by
    rintro ⟨special, apart⟩
    simp [alone (.inr (.inl special))] at apart
  have colon : ¬(c = ':' ∧ endsWord next? = true) := by
    rintro ⟨special, apart⟩
    simp [alone (.inr (.inr special))] at apart
  unfold takeToken
  rw [cursor]
  simp [next, marker, indicator, dash, question, colon, starts, block]

/-- A single quote starts a quoted scalar. -/
theorem takeToken_singleQuote (cursor : l.cursor = ⟨'\'' :: rest, m⟩) :
    l.takeToken = l.takeNode (readQuoted true l.cursor) := by
  unfold takeToken
  rw [cursor]
  simp [Cursor.isAtMarker]

/-- A double quote starts a quoted scalar. -/
theorem takeToken_doubleQuote (cursor : l.cursor = ⟨'"' :: rest, m⟩) :
    l.takeToken = l.takeNode (readQuoted false l.cursor) := by
  unfold takeToken
  rw [cursor]
  simp [Cursor.isAtMarker]

/-- A bar starts a literal block. -/
theorem takeToken_bar (cursor : l.cursor = ⟨'|' :: rest, m⟩) (block : l.inFlow = false) :
    l.takeToken = l.takeBlockScalar false := by
  unfold takeToken
  rw [cursor]
  simp [Cursor.isAtMarker, block]

/-! ### What is known afterwards -/

/-- The key that may start at a place. -/
def startedKey (allowed : Bool) (indent : Int) (queue : List Token) (m : Mark) :
    Option PossibleKey :=
  if allowed then some ⟨indent == m.column, queue.length, m⟩ else none

/-- Where a key is allowed it is noted. -/
theorem saveKey_eq (c : Cursor) :
    saveKey ⟨c, true, indent, outers, allowed, [none], 0, queue⟩ =
      .ok
        ⟨c, true, indent, outers, allowed, [startedKey allowed indent queue c.mark], 0, queue⟩ := by
  -- No key was started before, so that none is replaced.
  cases allowed <;> simp [saveKey, startedKey, removeKey, key, setKey, inFlow, mark, Except.map]

/-- A quoted scalar may be a key, and no key may start right after it. -/
theorem takeNode_eq (c : Cursor) {scan : Scan Token} {token : Token} {after : Cursor}
    (read : scan = .ok (token, after)) :
    takeNode ⟨c, true, indent, outers, allowed, [none], 0, queue⟩ scan =
      .ok ⟨after, true, indent, outers, false, [startedKey allowed indent queue c.mark], 0,
        queue ++ [token]⟩ := by
  simp only [takeNode, saveKey_eq, bind, Except.bind, takeRead, read, Except.map, push]

/-- A plain scalar may be a key, and a key may start on a later line. -/
theorem takePlain_eq (c : Cursor) {token : Token} {after : Cursor} {broken : Bool}
    (read : readPlain false indent c = .ok ((token, broken), after)) :
    takePlain ⟨c, true, indent, outers, allowed, [none], 0, queue⟩ =
      .ok ⟨after, true, indent, outers, broken, [startedKey allowed indent queue c.mark], 0,
        queue ++ [token]⟩ := by
  simp only [takePlain, saveKey_eq, bind, Except.bind, inFlow, List.length_singleton,
    lt_self_iff_false, decide_false, read, push, pure, Except.pure]

/-- A block scalar is no key, and a key may start after it. -/
theorem takeBlockScalar_eq (c : Cursor) {token : Token} {after : Cursor}
    (read : Block.read false indent c = .ok (token, after)) :
    takeBlockScalar ⟨c, true, indent, outers, allowed, [none], 0, queue⟩ false =
      .ok ⟨after, true, indent, outers, true, [none], 0, queue ++ [token]⟩ := by
  simp only [takeBlockScalar, removeKey, key, List.head?_cons, Option.join_some, bind, Except.bind,
    takeRead, read, Except.map, push]

/-! ### Values -/

/-- A key that starts right of the open collection is not required. -/
theorem startedKey_optional (allowed : Bool) (queue : List Token) {i : Nat} (right : i < m.column) :
    ∀ key ∈ startedKey allowed i queue m, key.isRequired = false ∧ key.mark = m := by
  unfold startedKey
  intro key member
  -- A key is required in the column of the open mapping, which is further left.
  split at member
  · obtain rfl := Option.mem_some.mp member
    exact ⟨by simp; omega, rfl⟩
  · cases member

/-- A text that does not end in a line break gets one. -/
theorem endLine_of_last {last : Char} (unbroken : isBreak last = false) (front : List Char) :
    endLine (front ++ [last]) = front ++ [last] ++ ['\n'] := by
  simp [endLine, unbroken]

/-- A scalar that is not a block gets a line break. -/
theorem endLine_styled {style : Style} (suits : Suits cs style) (inline : style ≠ .literal)
    (indent : Nat) : endLine (styled indent cs style) = styled indent cs style ++ ['\n'] := by
  cases style with
  -- No style but the block ends in a break: a plain scalar has none, and quotes end the others.
  | plain =>
    obtain ⟨nonempty, allowed⟩ := suits
    obtain ⟨front, last, shape⟩ := List.eq_nil_or_concat cs |>.resolve_left nonempty
    rw [List.concat_eq_append] at shape
    subst shape
    have unbroken := ((plainRest_of_allowsPlain nonempty allowed).printable last (by simp)).2
    exact endLine_of_last unbroken front
  | singleQuoted => exact endLine_of_last rfl _
  | doubleQuoted => exact endLine_of_last rfl _
  | literal => exact absurd rfl inline

/-- A plain scalar is read on past the break, with the indentation of the next line. -/
theorem rests_plain (outers : List Int) (allowed : Bool) (queue : List Token) {i : Nat}
    (nonempty : cs ≠ []) (plain : allowsPlain cs = true) (right : i < m.column) (left : k ≤ i)
    (starts : StartsToken rest) :
    ∃ taken, takeToken ⟨⟨cs ++ '\n' :: (blanks k ++ rest), m⟩, true, i, outers, allowed, [none], 0,
        queue⟩ = .ok taken ∧
      Rests rest k i outers
        (queue.map Token.kind ++ [.scalar (String.ofList cs) .plain]) taken := by
  have follows : FollowsPlain ((i : Int) + 1).toNat ('\n' :: (blanks k ++ rest)) :=
    .line k rest (by omega) starts.startsSolid
  obtain ⟨token, after, broken, read, kind, lands⟩ :=
    readPlain_eq (m := m) nonempty plain follows (by omega)
  refine ⟨_, (takeToken_plain rfl nonempty plain follows rfl).trans (takePlain_eq _ read), ?_⟩
  -- The reader lands on the next line, at the column where its text starts.
  generalize shape : '\n' :: (blanks k ++ rest) = tail at lands
  cases lands with
  | colon | nothing => cases shape
  | line rest' after solid later =>
    obtain ⟨column, same⟩ := blanks_append_inj starts.startsSolid solid (List.cons.inj shape).2
    subst same
    refine .landed after _ _ column.symm (fun key member => ?_) (by simp [kind])
    obtain ⟨free, place⟩ := startedKey_optional allowed queue right key member
    exact ⟨free, by simpa [place] using later⟩

/-- A quoted scalar is read up to its closing quote, before the break that ends its line. -/
theorem rests_quoted {text : List Char} {scan : Scan Token} {token : Token} {after : Mark} {i : Nat}
    (node : takeToken ⟨⟨text, m⟩, true, i, outers, allowed, [none], 0, queue⟩ =
      takeNode ⟨⟨text, m⟩, true, i, outers, allowed, [none], 0, queue⟩ scan)
    (read : scan = .ok (token, ⟨'\n' :: (blanks k ++ rest), after⟩)) (right : i < m.column)
    (later : m.line ≤ after.line) :
    ∃ taken, takeToken ⟨⟨text, m⟩, true, i, outers, allowed, [none], 0, queue⟩ = .ok taken ∧
      Rests rest k i outers (queue.map Token.kind ++ [token.kind]) taken := by
  refine ⟨_, node.trans (takeNode_eq _ read),
    .broken after _ false _ (fun key member => ?_) (by simp)⟩
  -- The key that was started is on the line of the opening quote.
  obtain ⟨free, place⟩ := startedKey_optional allowed queue right key member
  exact ⟨free, by simpa [place] using later⟩

/-- A literal block is read with all of its lines, and the next line starts after it. -/
theorem rests_literal (outers : List Int) (allowed : Bool) (queue : List Token) {i : Nat}
    (literal : allowsLiteral cs = true) (left : k ≤ i) (starts : StartsToken rest) :
    ∃ taken,
      takeToken ⟨⟨endLine (Yaml.literal (i + 2) cs) ++ (blanks k ++ rest), m⟩, true, i, outers,
        allowed, [none], 0, queue⟩ = .ok taken ∧
      Rests rest k i outers
        (queue.map Token.kind ++ [.scalar (String.ofList cs) .block]) taken := by
  obtain ⟨token, after, read, kind, column, -⟩ := read_literal m literal left starts.startsSolid
  have nonempty : cs ≠ [] := by
    rintro rfl
    cases literal
  -- The block starts with its bar.
  obtain ⟨body, shape⟩ : ∃ body,
      endLine (Yaml.literal (i + 2) cs) ++ (blanks k ++ rest) = '|' :: body :=
    ⟨_, by rw [endLine_literal _ nonempty, List.cons_append]⟩
  rw [shape] at read ⊢
  exact ⟨_, (takeToken_bar rfl rfl).trans (takeBlockScalar_eq _ read),
    .landed after none _ column (by simp) (by simp [kind])⟩

/-- A scalar ends its line as a value. -/
theorem rests_word {style : Style} {i : Nat} (suits : Suits cs style) (right : i < column)
    (left : k ≤ i) (starts : StartsToken rest)
    (at_ : At (endLine (styled (i + 2) cs style) ++ (blanks k ++ rest)) column i outers allowed
      kinds l) :
    ∃ taken, l.takeToken = .ok taken ∧
      Rests rest k i outers (kinds ++ [.scalar (String.ofList cs) style.presentation]) taken := by
  obtain ⟨m, queue, rfl, rfl, unfinished⟩ := at_
  -- In the other styles the line ends right behind the text.
  have within (inline : style ≠ .literal) : endLine (styled (i + 2) cs style) ++
      (blanks k ++ rest) = styled (i + 2) cs style ++ '\n' :: (blanks k ++ rest) := by
    rw [endLine_styled suits inline]
    simp
  have quote : ('\n' :: (blanks k ++ rest)).head? ≠ some '\'' := by simp
  cases style with
  | plain =>
    rw [within (by simp)]
    exact rests_plain outers allowed queue suits.1 suits.2 right left starts
  | singleQuoted =>
    -- A text in quotes may take several lines, so that only its last line is known.
    obtain ⟨token, after, read, kind, later, -⟩ := readQuoted_singleQuoted suits.1 suits.2 (i + 1)
      quote m
    rw [within (by simp), Style.presentation, ← kind]
    exact rests_quoted (takeToken_singleQuote rfl) read right later
  | doubleQuoted =>
    obtain ⟨token, read, kind⟩ := readQuoted_doubleQuoted cs quote m
    rw [within (by simp), Style.presentation, ← kind]
    exact rests_quoted (takeToken_doubleQuote rfl) read right le_rfl
  | literal => exact rests_literal outers allowed queue suits left starts

/-- A scalar leads to the next line. -/
theorem leads_word (outers : List Int) (allowed : Bool) (kinds : List Token.Kind) {style : Style}
    {i : Nat} (suits : Suits cs style) (right : i < column)
    (left : k ≤ i) (starts : StartsToken rest) :
    Leads
      (At (endLine (styled (i + 2) cs style) ++ (blanks k ++ rest)) column i outers allowed kinds)
      (Closed rest k i outers (kinds ++ [.scalar (String.ofList cs) style.presentation])) := by
  apply leads_of_step
  intro l at_
  obtain ⟨taken, took, rests⟩ := rests_word suits right left starts at_
  have unfinished : .streamEnd ∉ kinds := by
    obtain ⟨m, queue, -, -, unfinished⟩ := at_
    exact unfinished
  -- From the end of the line the way leads to the next token.
  obtain ⟨next, reached, closed⟩ := rests.approach starts (by simpa using unfinished)
  refine ⟨at_.unfinished, taken, next, took, ?_, reached, closed⟩
  rw [at_.length_eq, rests.length_eq, List.length_append]
  exact Nat.lt_succ_self kinds.length

/-! ### Empty collections -/

/-- Between the brackets of an empty collection. -/
inductive Opened (text : List Char) (indent : Int) (outers : List Int) (kinds : List Token.Kind) :
    Lexer → Prop where
  | intro (m : Mark) (key? : Option PossibleKey) (queue : List Token)
      (optional : ∀ key ∈ key?, key.isRequired = false ∧ key.mark.line = m.line)
      (same : queue.map Token.kind = kinds) (unfinished : .streamEnd ∉ kinds) :
      Opened text indent outers kinds
        ⟨⟨text, m⟩, true, indent, outers, true, [none, key?], 0, queue⟩

/-- An opening bracket leads to the closing one. -/
theorem leads_open {c : Char} {text : List Char} {kind : Token.Kind} {i : Nat} (right : i < column)
    (starts : StartsToken text) (inner : kind ≠ .streamEnd)
    (opens : ∀ l : Lexer, l.cursor.rest = c :: text → l.takeToken = l.openFlow kind) :
    Leads (At (c :: text) column i outers allowed kinds)
      (Opened text i outers (kinds ++ [kind])) := by
  apply leads_of_step
  intro l at_
  refine ⟨at_.unfinished, ?_⟩
  obtain ⟨m, queue, reached, rfl, unfinished⟩ := at_
  have optional := startedKey_optional allowed queue (m := m) (i := i) (by omega)
  obtain ⟨opened, shape⟩ : ∃ opened : Lexer, opened = ⟨⟨text, m.advance 1⟩, true, i, outers, true,
    [none, startedKey allowed i queue m], 0, queue ++ [⟨kind, m, m.advance 1⟩]⟩ := ⟨_, rfl⟩
  -- The bracket saves the key that may start at it, and then opens a level of its own.
  have took : takeToken ⟨⟨c :: text, m⟩, true, i, outers, allowed, [none], 0, queue⟩ =
      .ok opened := by
    rw [opens _ rfl, shape]
    simp only [openFlow, saveKey_eq, bind, Except.bind]
    simp [take, push, mark, pure, Except.pure]
  -- The key that may have started before the bracket is known outside of it.
  have recent : ∀ key? ∈ opened.possibleKeys, ∀ key ∈ key?,
      key.mark.line = opened.mark.line ∧ opened.mark.index ≤ key.mark.index + maxKeyLength := by
    intro key? member key inside
    rw [shape] at member ⊢
    simp only [List.mem_cons, List.not_mem_nil, or_false] at member
    rcases member with rfl | rfl
    · cases inside
    · rw [(optional key inside).2]
      exact ⟨rfl, by simp [mark, maxKeyLength]⟩
  refine ⟨opened, opened, took, by simp [shape],
    approach_self (by simpa [shape] using starts) recent (.inl (by rw [shape]; rfl)), ?_⟩
  rw [shape]
  refine .intro (m.advance 1) _ _ (fun key member => ?_) (by simp)
    (by simp only [List.mem_append, not_or]; exact ⟨unfinished, by simpa using inner.symm⟩)
  obtain ⟨free, place⟩ := optional key member
  exact ⟨free, by rw [place]; rfl⟩

/-- A closing bracket leads to the next line. -/
theorem leads_close {c : Char} {kind : Token.Kind} {i : Nat} (starts : StartsToken rest)
    (inner : kind ≠ .streamEnd)
    (closes : ∀ l : Lexer, l.cursor.rest = c :: '\n' :: (blanks k ++ rest) →
      l.takeToken = l.closeFlow kind) :
    Leads (Opened (c :: '\n' :: (blanks k ++ rest)) i outers kinds)
      (Closed rest k i outers (kinds ++ [kind])) := by
  apply leads_of_step
  rintro _ ⟨m, key?, queue, optional, rfl, unfinished⟩
  -- The bracket itself leaves the lexer before a line break, from where it comes to the next token.
  have rests : Rests rest k i outers (queue.map Token.kind ++ [kind])
      ⟨⟨'\n' :: (blanks k ++ rest), m.advance 1⟩, true, i, outers, false, [key?], 0,
        queue ++ [⟨kind, m, m.advance 1⟩]⟩ :=
    .broken (m.advance 1) key? false _ (fun key member => by
      obtain ⟨free, place⟩ := optional key member
      exact ⟨free, by simp [place]⟩) (by simp)
  have ended : .streamEnd ∉ queue.map Token.kind ++ [kind] := by
    simp only [List.mem_append, not_or]
    exact ⟨unfinished, by simpa using inner.symm⟩
  obtain ⟨next, reached, closed⟩ := rests.approach starts ended
  refine ⟨fun t member last => unfinished (last ▸ List.mem_map_of_mem member), _, next,
    (closes _ rfl).trans ?_, ?_, reached, closed⟩
  · simp [closeFlow, removeKey, key, inFlow, take, push, mark, bind, Except.bind, pure, Except.pure]
  · simp

/-- Brackets with nothing between them lead to the next line. -/
theorem leads_brackets {c d : Char} {start finish : Token.Kind} {i : Nat} (right : i < column)
    (starts : StartsToken rest) (solid : StartsToken (d :: '\n' :: (blanks k ++ rest)))
    (inner : start ≠ .streamEnd ∧ finish ≠ .streamEnd)
    (opens : ∀ (l : Lexer) text, l.cursor.rest = c :: text → l.takeToken = l.openFlow start)
    (closes : ∀ (l : Lexer) text, l.cursor.rest = d :: text → l.takeToken = l.closeFlow finish) :
    Leads (At (endLine [c, d] ++ (blanks k ++ rest)) column i outers allowed kinds)
      (Closed rest k i outers (kinds ++ [start, finish])) := by
  have text : endLine [c, d] ++ (blanks k ++ rest) = c :: d :: '\n' :: (blanks k ++ rest) := by
    rw [show [c, d] = [c] ++ [d] from rfl, endLine_of_last ((startsToken_cons d _).mp solid).1.2]
    rfl
  rw [text, show kinds ++ [start, finish] = kinds ++ [start] ++ [finish] by simp]
  exact (leads_open right solid inner.1 fun l shape => opens l _ shape).trans
    (leads_close starts inner.2 fun l shape => closes l _ shape)

/-- A leaf leads to the next line. -/
theorem leads_leaf {leaf : Leaf} {i : Nat} (suited : leaf.IsSuited) (right : i < column)
    (left : k ≤ i) (starts : StartsToken rest) :
    Leads (At (endLine (leaf.text (i + 2)) ++ (blanks k ++ rest)) column i outers allowed kinds)
      (Closed rest k i outers (kinds ++ leaf.tokens)) := by
  cases leaf with
  | word cs style => exact leads_word outers allowed kinds suited right left starts
  -- The two brackets are a token each, and nothing stands between them.
  | noItems =>
    refine leads_brackets right starts (by rw [startsToken_cons]; decide) (by simp) ?_ ?_
    all_goals
      intro l text shape
      unfold takeToken
      simp [Cursor.peek, Cursor.isAtMarker, shape]
  | noEntries =>
    refine leads_brackets right starts (by rw [startsToken_cons]; decide) (by simp) ?_ ?_
    all_goals
      intro l text shape
      unfold takeToken
      simp [Cursor.peek, Cursor.isAtMarker, shape]

/-! ### Keys -/

/-- A scalar on one line is read up to the colon after it. -/
theorem takeToken_key (outers : List Int) (queue : List Token) (n : Nat) {style : Style}
    {after : List Char} (suits : Suits cs style)
    (inline : style ≠ .literal) (unbroken : ∀ c ∈ cs, isBreak c = false)
    (apart : endsWord after.head? = true) (inside : indent ≤ m.column) :
    ∃ token : Token, token.kind = .scalar (String.ofList cs) style.presentation ∧
      takeToken ⟨⟨styled (n + 1) cs style ++ ':' :: after, m⟩, true, indent, outers, true, [none],
          0, queue⟩ =
        .ok ⟨⟨':' :: after, m.advance (styled (n + 1) cs style).length⟩, true, indent, outers,
          false, [some ⟨indent == m.column, queue.length, m⟩], 0, queue ++ [token]⟩ := by
  have quote : (':' :: after).head? ≠ some '\'' := by simp
  cases style with
  -- A plain scalar ends before a colon that a blank follows.
  | plain =>
    obtain ⟨nonempty, plain⟩ := suits
    have follows : FollowsPlain (indent + 1).toNat (':' :: after) := .colon after apart
    obtain ⟨token, cursor, broken, read, kind, lands⟩ :=
      readPlain_eq (m := m) nonempty plain follows inside
    cases lands
    exact
      ⟨token, kind, (takeToken_plain rfl nonempty plain follows rfl).trans (takePlain_eq _ read)⟩
  | singleQuoted =>
    -- A key without line breaks ends on its line, as many columns on as it is long.
    obtain ⟨token, place, read, kind, -, exact_⟩ :=
      readQuoted_singleQuoted suits.1 suits.2 n quote m
    rw [exact_ unbroken] at read
    exact ⟨token, kind, (takeToken_singleQuote rfl).trans (takeNode_eq _ read)⟩
  | doubleQuoted =>
    obtain ⟨token, read, kind⟩ := readQuoted_doubleQuoted cs quote m
    exact ⟨token, kind, (takeToken_doubleQuote rfl).trans (takeNode_eq _ read)⟩
  | literal => exact absurd rfl inline

/-- The colon after a scalar makes a key of it, and the first key opens the mapping. -/
theorem takeValue_key {token : Token} {required : Bool} (c : Cursor) (inside : indent ≤ m.column) :
    takeValue ⟨c, true, indent, outers, false, [some ⟨required, queue.length, m⟩], 0,
        queue ++ [token]⟩ =
      .ok ⟨c.skip 1, true, m.column, around indent m.column outers, false, [none], 0,
        queue ++ ((opening indent m.column .blockMappingStart).map (fun kind => ⟨kind, m, m⟩) ++
          [⟨.key, m, m⟩, token, ⟨.value, c.mark, (c.skip 1).mark⟩])⟩ := by
  -- The key stands further right than the open collection, or in its column.
  by_cases outside : indent < m.column
  · simp [takeValue, key, insertBefore, openBlock, opening, around, outside, inFlow, setKey, take,
      push, mark, not_le.mpr outside]
  · have same : indent = m.column := by omega
    simp [takeValue, key, insertBefore, openBlock, opening, around, inFlow, setKey, take,
      push, mark, same]

/-- A short scalar leads to the colon after it, where it may still be a key. -/
theorem leads_scalar (outers : List Int) {style : Style} {after : List Char} {n : Nat}
    (suits : Suits cs style) (inline : style ≠ .literal) (unbroken : ∀ c ∈ cs, isBreak c = false)
    (short : (styled (n + 1) cs style).length ≤ maxKeyLength) (apart : endsWord after.head? = true)
    (inside : indent ≤ m.column) (unfinished : ∀ t ∈ queue, t.kind ≠ .streamEnd) :
    ∃ token : Token, token.kind = .scalar (String.ofList cs) style.presentation ∧
      Leads (· = ⟨⟨styled (n + 1) cs style ++ ':' :: after, m⟩, true, indent, outers, true,
          [none], 0, queue⟩)
        (· = ⟨⟨':' :: after, m.advance (styled (n + 1) cs style).length⟩, true, indent, outers,
          false, [some ⟨indent == m.column, queue.length, m⟩], 0, queue ++ [token]⟩) := by
  -- The scalar is one token, and the colon behind it is reached at once.
  obtain ⟨token, kind, took⟩ := takeToken_key outers queue n suits inline unbroken apart inside
  refine ⟨token, kind, ?_⟩
  obtain ⟨keyed, shape⟩ : ∃ keyed : Lexer, keyed =
    ⟨⟨':' :: after, m.advance (styled (n + 1) cs style).length⟩, true, indent, outers, false,
      [some ⟨indent == m.column, queue.length, m⟩], 0, queue ++ [token]⟩ := ⟨_, rfl⟩
  rw [← shape] at took ⊢
  -- The key is on the same line, not too far back.
  have recent : ∀ key? ∈ keyed.possibleKeys, ∀ key ∈ key?,
      key.mark.line = keyed.mark.line ∧ keyed.mark.index ≤ key.mark.index + maxKeyLength := by
    intro key? member key within
    rw [shape] at member ⊢
    obtain rfl := List.mem_singleton.mp member
    obtain rfl := Option.mem_some.mp within
    exact ⟨rfl, Nat.add_le_add_left short m.index⟩
  apply leads_of_step
  rintro _ rfl
  refine ⟨unfinished, keyed, keyed, took, by simp [shape], approach_self ?_ recent (.inr ?_), rfl⟩
  · rw [shape, startsToken_cons]
    decide
  · rw [shape]
    simp only [mark, Mark.column_advance]
    omega

/-- The colon after a key leads to the value, with the tokens before the key put in front of it. -/
theorem leads_colon_of_key (queue : List Token) (required : Bool) {token : Token} {place : Mark}
    {after : List Char} {last : Lexer → Prop} (inner : token.kind ≠ .streamEnd)
    (apart : endsWord after.head? = true)
    (inside : indent ≤ m.column) (unfinished : .streamEnd ∉ queue.map Token.kind)
    (reaches : Reaches (At after (place.column + 1) m.column (around indent m.column outers) false
      (queue.map Token.kind ++ (opening indent m.column .blockMappingStart ++
        [.key, token.kind, .value]))) last) :
    Leads (· = ⟨⟨':' :: after, place⟩, true, indent, outers, false,
      [some ⟨required, queue.length, m⟩], 0, queue ++ [token]⟩) last := by
  apply leads_of_step
  rintro _ rfl
  have opened : .streamEnd ∉ opening indent m.column .blockMappingStart :=
    streamEnd_not_mem_opening (by simp)
  -- The token that opens the mapping and that of the key go before the token of the scalar.
  obtain ⟨next, reached, done⟩ := reaches _ (.intro (place.advance 1)
    (queue ++ ((opening indent m.column .blockMappingStart).map (fun kind => ⟨kind, m, m⟩) ++
      [⟨.key, m, m⟩, token, ⟨.value, place, place.advance 1⟩]))
    (by simp) (by simp [Function.comp_def])
    (by
      simp only [List.mem_append, not_or]
      exact ⟨unfinished, opened, by simpa using inner.symm⟩))
  refine ⟨?_, _, next, (takeToken_colon rfl apart).trans (takeValue_key _ inside), ?_, ?_, done⟩
  · intro t member
    rcases List.mem_append.mp member with before | key
    · exact fun ends => unfinished (ends ▸ List.mem_map_of_mem before)
    · rwa [List.mem_singleton.mp key]
  · simp
  · simpa using reached

/-- A key leads to its value, and the first one opens the mapping before the key. -/
theorem leads_key {style : Style} {after : List Char} {n : Nat} {last : Lexer → Prop}
    (suits : Suits cs style) (inline : style ≠ .literal) (unbroken : ∀ c ∈ cs, isBreak c = false)
    (short : (styled (n + 1) cs style).length ≤ maxKeyLength) (apart : endsWord after.head? = true)
    (inside : indent ≤ column)
    (reaches : Reaches (At after (column + (styled (n + 1) cs style).length + 1) column
      (around indent column outers) false (kinds ++ (opening indent column .blockMappingStart ++
        [.key, .scalar (String.ofList cs) style.presentation, .value]))) last) :
    Leads (At (styled (n + 1) cs style ++ ':' :: after) column indent outers true kinds) last := by
  intro l at_
  have unfinished := at_.unfinished
  obtain ⟨m, queue, rfl, rfl, ended⟩ := at_
  obtain ⟨token, kind, toColon⟩ :=
    leads_scalar outers suits inline unbroken short apart inside unfinished
  rw [← kind] at reaches
  -- The scalar is read first, and only the colon makes a key of it.
  have toValue := leads_colon_of_key queue (indent == m.column) (by rw [kind]; simp) apart inside
    ended (by rwa [Mark.column_advance])
  exact toColon.trans toValue _ rfl

end ToolPolicy.Yaml.Lexer
