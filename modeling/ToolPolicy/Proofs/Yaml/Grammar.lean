import ToolPolicy.Proofs.Yaml.Scan
import ToolPolicy.Yaml.Event

/-! From the tokens of a written value to its events. -/

namespace ToolPolicy.Yaml

/-- What is mapped to a first one, inner ones and a last one is made up of such parts itself. -/
theorem exists_enclosed {α β : Type} {f : α → β} {xs : List α} {first last : β} {inner : List β}
    (same : xs.map f = first :: (inner ++ [last])) :
    ∃ x mine y, xs = x :: (mine ++ [y]) ∧ f x = first ∧ mine.map f = inner ∧ f y = last := by
  obtain ⟨x, more, rfl, front, others⟩ := List.map_eq_cons_iff.mp same
  obtain ⟨mine, back, rfl, within, final⟩ := List.map_eq_append_iff.mp others
  obtain ⟨y, nothing, rfl, ends, none⟩ := List.map_eq_cons_iff.mp final
  obtain rfl := List.map_eq_nil_iff.mp none
  exact ⟨x, mine, y, rfl, front, within, ends⟩

namespace Grammar

variable {α β : Type} {p p' p'' : Progress} {a : α} {b : β}

/-! ### Steps of the grammar -/

/-- A part of the grammar succeeds with a result. -/
def Gives (x : Grammar α) (p : Progress) (a : α) (p' : Progress) : Prop := x.run p = (.ok a, p')

/-- Parts of the grammar follow one another. -/
theorem Gives.bind {x : Grammar α} {f : α → Grammar β} (first : Gives x p a p')
    (second : Gives (f a) p' b p'') : Gives (x >>= f) p b p'' := by
  have step : (x >>= f).run p = ExceptT.bindCont f (x.run p).1 (x.run p).2 := rfl
  rw [Gives, step, first]
  exact second

/-- A part of the grammar goes from one list of tokens to another and adds events. -/
def Parses (x : Grammar Unit) (ts : List Token) (events : List Event.Kind) (rest : List Token) :
    Prop :=
  ∀ fault before handles, ∃ new, new.map Event.kind = events.reverse ∧
    Gives x ⟨ts, fault, before, handles⟩ () ⟨rest, fault, new ++ before, handles⟩

variable {ts middle rest : List Token} {t : Token} {first second events : List Event.Kind}

/-- Parts of the grammar follow one another. -/
theorem Parses.bind {x y : Grammar Unit} (front : Parses x ts first middle)
    (back : Parses y middle second rest) : Parses (x >>= fun _ => y) ts (first ++ second) rest := by
  intro fault before handles
  obtain ⟨new, same, gives⟩ := front fault before handles
  -- Events are kept in reverse, so those of the second part stand in front.
  obtain ⟨new', same', gives'⟩ := back fault (new ++ before) handles
  refine ⟨new' ++ new, by simp [same, same'], gives.bind ?_⟩
  rwa [List.append_assoc]

/-- Looking at the next token changes nothing. -/
theorem parses_peek {f : Token → Grammar Unit} (follows : Parses (f t) (t :: ts) events rest) :
    Parses (peek >>= f) (t :: ts) events rest := by
  intro fault before handles
  obtain ⟨new, same, gives⟩ := follows fault before handles
  exact ⟨new, same, Gives.bind (a := t) rfl gives⟩

/-- Going over a token leaves those after it. -/
theorem parses_skip {x : Grammar Unit} (follows : Parses x ts events rest) :
    Parses (skip >>= fun _ => x) (t :: ts) events rest := by
  intro fault before handles
  obtain ⟨new, same, gives⟩ := follows fault before handles
  exact ⟨new, same, Gives.bind (a := ()) rfl gives⟩

/-- Going over a token and looking at the one after it. -/
theorem parses_skipAndPeek {next : Token} {f : Token → Grammar Unit}
    (follows : Parses (f next) (next :: ts) events rest) :
    Parses (skipAndPeek >>= f) (t :: next :: ts) events rest := by
  intro fault before handles
  obtain ⟨new, same, gives⟩ := follows fault before handles
  exact ⟨new, same, Gives.bind (a := next) rfl gives⟩

/-- An event is added. -/
theorem parses_emit (kind : Event.Kind) (mark : Mark) : Parses (emit kind mark) ts [kind] ts :=
  fun _ _ _ => ⟨[⟨kind, mark⟩], rfl, rfl⟩

/-- An event is added before those that follow. -/
theorem parses_emit_bind {x : Grammar Unit} (kind : Event.Kind) (mark : Mark)
    (follows : Parses x ts events rest) :
    Parses (emit kind mark >>= fun _ => x) ts (kind :: events) rest :=
  (parses_emit kind mark).bind follows

/-! ### Starts of nodes

With fuel left a node is by definition what begins with a look at its first token, so that the steps
above apply to it as it stands. -/

/-- Whether a token starts a node; only after a key does a dash start one. -/
def StartsNode (keyed : Bool) : Token.Kind → Prop
  | .scalar .. | .flowSequenceStart | .flowMappingStart | .blockSequenceStart
  | .blockMappingStart => True
  | .blockEntry => keyed = true
  | _ => False

/-- A node without properties. -/
theorem parses_properties {f : Properties → Grammar Unit} (keyed : Bool)
    (starts : StartsNode keyed t.kind)
    (follows : Parses (f ⟨none, none, t.start⟩) (t :: ts) events rest) :
    Parses (properties >>= f) (t :: ts) events rest := by
  intro fault before handles
  obtain ⟨new, same, gives⟩ := follows fault before handles
  -- No token that starts a node is an anchor or a tag.
  have none : Gives properties ⟨t :: ts, fault, before, handles⟩ ⟨none, none, t.start⟩
      ⟨t :: ts, fault, before, handles⟩ := by
    obtain ⟨kind, start, finish⟩ := t
    cases kind <;> first | rfl | cases starts
  exact ⟨new, same, none.bind gives⟩

variable {fuel : Nat} {block indentless : Bool}

/-- A scalar is a node. -/
theorem parses_scalar {text : String} {presentation : Presentation}
    (kind : t.kind = .scalar text presentation) :
    Parses (node (fuel + 1) block indentless) (t :: ts)
      [.scalar none none text presentation] ts := by
  obtain ⟨_, start, finish⟩ := t
  obtain rfl := kind
  refine parses_peek (parses_properties false trivial (parses_peek ?_))
  exact parses_skip (parses_emit _ start)

/-- A pair of brackets is a node. -/
theorem parses_noItems {t' : Token} (kind : t.kind = .flowSequenceStart)
    (kind' : t'.kind = .flowSequenceEnd) :
    Parses (node (fuel + 2) block indentless) (t :: t' :: ts)
      [.sequenceStart none none, .sequenceEnd] ts := by
  obtain ⟨_, start, finish⟩ := t
  obtain ⟨_, start', finish'⟩ := t'
  obtain rfl := kind
  obtain rfl := kind'
  -- The node has no properties, and the list is closed right behind its start.
  refine parses_peek (parses_properties false trivial (parses_peek ?_))
  refine parses_emit_bind _ start (parses_skip ?_)
  rw [flowSequence]
  exact parses_peek (parses_peek (parses_skip (parses_emit _ start')))

/-- A pair of braces is a node. -/
theorem parses_noEntries {t' : Token} (kind : t.kind = .flowMappingStart)
    (kind' : t'.kind = .flowMappingEnd) :
    Parses (node (fuel + 2) block indentless) (t :: t' :: ts)
      [.mappingStart none none, .mappingEnd] ts := by
  obtain ⟨_, start, finish⟩ := t
  obtain ⟨_, start', finish'⟩ := t'
  obtain rfl := kind
  obtain rfl := kind'
  -- The node has no properties, and the mapping is closed right behind its start.
  refine parses_peek (parses_properties false trivial (parses_peek ?_))
  refine parses_emit_bind _ start (parses_skip ?_)
  rw [flowMapping]
  exact parses_peek (parses_peek (parses_skip (parses_emit _ start')))

/-- A block sequence is a node. -/
theorem parses_blockSequence (kind : t.kind = .blockSequenceStart)
    (follows : Parses (blockSequence fuel t.start) ts events rest) :
    Parses (node (fuel + 1) true indentless) (t :: ts)
      (.sequenceStart none none :: events) rest := by
  obtain ⟨_, start, finish⟩ := t
  obtain rfl := kind
  refine parses_peek (parses_properties false trivial (parses_peek ?_))
  simp only [reduceCtorEq, decide_false, Bool.and_false, Bool.false_eq_true, if_false, decide_true,
    Bool.and_true, if_true]
  exact parses_emit_bind _ start (parses_skip follows)

/-- A block mapping is a node. -/
theorem parses_blockMapping (kind : t.kind = .blockMappingStart)
    (follows : Parses (blockMapping fuel t.start) ts events rest) :
    Parses (node (fuel + 1) true indentless) (t :: ts)
      (.mappingStart none none :: events) rest := by
  obtain ⟨_, start, finish⟩ := t
  obtain rfl := kind
  refine parses_peek (parses_properties false trivial (parses_peek ?_))
  simp only [reduceCtorEq, decide_false, Bool.and_false, Bool.false_eq_true, if_false, decide_true,
    Bool.and_true, if_true]
  exact parses_emit_bind _ start (parses_skip follows)

/-- After a key dashes alone are a node. -/
theorem parses_indentless (kind : t.kind = .blockEntry)
    (follows : Parses (indentlessSequence fuel) (t :: ts) events rest) :
    Parses (node (fuel + 1) true true) (t :: ts) (.sequenceStart none none :: events) rest := by
  obtain ⟨_, start, finish⟩ := t
  obtain rfl := kind
  refine parses_peek (parses_properties true rfl (parses_peek ?_))
  exact parses_emit_bind _ start follows

end Grammar

/-! ### Events of values -/

/-- The kinds of the events of a leaf. -/
def Leaf.events : Leaf → List Event.Kind
  | word cs style => [.scalar none none (String.ofList cs) style.presentation]
  | noItems => [.sequenceStart none none, .sequenceEnd]
  | noEntries => [.mappingStart none none, .mappingEnd]

mutual

/-- The kinds of the events of a value. -/
def events : Content → List Event.Kind
  | .sequence items => .sequenceStart none none :: (itemEvents items ++ [.sequenceEnd])
  | .mapping entries => .mappingStart none none :: (entryEvents entries ++ [.mappingEnd])
  | value => (Leaf.ofContent value).events

/-- The kinds of the events of items. -/
def itemEvents : List Content → List Event.Kind
  | [] => []
  | item :: rest => events item ++ itemEvents rest

/-- The kinds of the events of entries. -/
def entryEvents : List (String × Content) → List Event.Kind
  | [] => []
  | (key, value) :: rest =>
    .scalar none none key (keyStyle key).presentation :: (events value ++ entryEvents rest)

end

/-- The events of a value without parts are those of its leaf. -/
theorem events_leaf {value : Content} (leaf : value.IsLeaf) :
    events value = (Leaf.ofContent value).events := by
  cases value with
  | sequence items => cases items <;> first | rfl | cases leaf
  | mapping entries => cases entries <;> first | rfl | cases leaf
  | _ => rfl

namespace Grammar

/-- The first token of a value starts a node. -/
theorem exists_tokens (keyed : Bool) (value : Content) : ∃ kind rest,
    tokens keyed value = kind :: rest ∧ StartsNode keyed kind := by
  have ofLeaf {value : Content} (leaf : value.IsLeaf) : ∃ kind rest,
      tokens keyed value = kind :: rest ∧ StartsNode keyed kind := by
    rw [tokens_leaf leaf]
    cases Leaf.ofContent value <;> exact ⟨_, _, rfl, trivial⟩
  -- Every value without parts has a token of its own, and a collection starts with one.
  cases value with
  | sequence items =>
    cases items with
    | nil => exact ofLeaf trivial
    | cons item rest =>
      cases keyed with
      | true => exact ⟨_, _, rfl, rfl⟩
      | false => exact ⟨_, _, rfl, trivial⟩
  | mapping entries =>
    cases entries with
    | nil => exact ofLeaf trivial
    | cons entry rest => exact ⟨_, _, rfl, trivial⟩
  | _ => exact ofLeaf trivial

/-- The tokens of a value are read as its events, whether it stands after a key or not. -/
def Parsed (value : Content) : Prop :=
  ∀ (fuel : Nat) (keyed indentless : Bool) (ts tail : List Token),
    (tokens false value).length ≤ fuel → (keyed = true → indentless = true) →
    ts.map Token.kind = tokens keyed value →
    (keyed = true → ∃ t rest, tail = t :: rest ∧ t.kind ≠ .blockEntry) →
    Parses (node fuel true indentless) (ts ++ tail) (events value) tail

/-- A value without parts is read as its events. -/
theorem parsed_leaf {value : Content} (leaf : value.IsLeaf) : Parsed value := by
  intro fuel keyed indentless ts tail enough _ kinds _
  rw [tokens_leaf leaf] at enough kinds
  rw [events_leaf leaf]
  -- A word has one token, and an empty collection has two.
  cases text : Leaf.ofContent value with
  | word cs style =>
    rw [text] at enough kinds
    obtain ⟨t, rest, rfl, kind, last⟩ := List.map_eq_cons_iff.mp kinds
    obtain rfl := List.map_eq_nil_iff.mp last
    obtain ⟨fuel, rfl⟩ := Nat.exists_eq_add_of_le' enough
    exact parses_scalar kind
  | noItems =>
    rw [text] at enough kinds
    obtain ⟨t, rest, rfl, kind, others⟩ := List.map_eq_cons_iff.mp kinds
    obtain ⟨t', rest, rfl, kind', last⟩ := List.map_eq_cons_iff.mp others
    obtain rfl := List.map_eq_nil_iff.mp last
    obtain ⟨fuel, rfl⟩ := Nat.exists_eq_add_of_le' enough
    exact parses_noItems kind kind'
  | noEntries =>
    rw [text] at enough kinds
    obtain ⟨t, rest, rfl, kind, others⟩ := List.map_eq_cons_iff.mp kinds
    obtain ⟨t', rest, rfl, kind', last⟩ := List.map_eq_cons_iff.mp others
    obtain rfl := List.map_eq_nil_iff.mp last
    obtain ⟨fuel, rfl⟩ := Nat.exists_eq_add_of_le' enough
    exact parses_noEntries kind kind'

variable {ts : List Token} {t : Token} {fuel : Nat}

/-- A token that starts a node outside of keys leaves out no node before it. -/
theorem StartsNode.not_ends {keyed : Bool} {kind : Token.Kind} (starts : StartsNode keyed kind) :
    endsBlockNode kind = false ∧ kind ≠ .blockEnd ∧ (keyed = false → kind ≠ .blockEntry) := by
  cases kind <;> simp_all [StartsNode, endsBlockNode]

/-- After its dash an item is read as its events, up to the dash of the next. -/
theorem exists_itemRead {item : Content} {items : List Content} (after : List Token)
    (parsed : Parsed item) (enough : (itemTokens (item :: items)).length < fuel + 1)
    (kinds : ts.map Token.kind = itemTokens (item :: items)) :
    ∃ start finish next mine later,
      ts = ⟨.blockEntry, start, finish⟩ :: next :: (mine ++ later) ∧
      later.map Token.kind = itemTokens items ∧ (itemTokens items).length < fuel ∧
      StartsNode false next.kind ∧
      Parses (node fuel true false) (next :: (mine ++ (later ++ after))) (events item)
        (later ++ after) := by
  obtain ⟨⟨_, start, finish⟩, _, rfl, rfl, others⟩ := List.map_eq_cons_iff.mp kinds
  obtain ⟨mine, later, rfl, mineKinds, laterKinds⟩ := List.map_eq_append_iff.mp others
  simp only [itemTokens, List.length_cons, List.length_append] at enough
  have node :=
    parsed fuel false false mine (later ++ after) (by omega) (by simp) mineKinds (by simp)
  -- An item is never without tokens, so a token of its own follows the dash.
  obtain ⟨kind, _, shape, starts⟩ := exists_tokens false item
  obtain ⟨next, mine, rfl, rfl, -⟩ := List.map_eq_cons_iff.mp (mineKinds.trans shape)
  exact ⟨start, finish, next, mine, later, rfl, laterKinds, by omega, starts, node⟩

/-- The tokens of items are read as their events. -/
theorem parses_items {items : List Content} (tail : List Token) (since : Mark)
    (parsed : ∀ part ∈ items, Parsed part)
    (enough : (itemTokens items).length < fuel) (kinds : ts.map Token.kind = itemTokens items)
    (ends : t.kind = .blockEnd) :
    Parses (blockSequence fuel since) (ts ++ t :: tail)
      (itemEvents items ++ [.sequenceEnd]) tail := by
  -- Each item has a dash and its own tokens, which leave those of the others.
  induction items generalizing ts fuel with
  | nil =>
    obtain rfl := List.map_eq_nil_iff.mp kinds
    obtain ⟨fuel, rfl⟩ := Nat.exists_eq_succ_of_ne_zero (Nat.ne_zero_of_lt enough)
    obtain ⟨_, start, finish⟩ := t
    obtain rfl := ends
    rw [blockSequence]
    exact parses_peek (parses_skip (parses_emit _ start))
  | cons item items ih =>
    obtain ⟨first, others⟩ := List.forall_mem_cons.mp parsed
    obtain ⟨fuel, rfl⟩ := Nat.exists_eq_succ_of_ne_zero (Nat.ne_zero_of_lt enough)
    obtain ⟨start, finish, next, mine, later, rfl, laterKinds, less, starts, node⟩ :=
      exists_itemRead (t :: tail) first enough kinds
    have rest := ih others less laterKinds
    obtain ⟨inner, other, dashless⟩ := starts.not_ends
    rw [blockSequence]
    refine parses_peek (parses_skipAndPeek ?_)
    dsimp only
    rw [if_neg (by simp [other, dashless rfl])]
    simpa [itemEvents] using node.bind rest

/-- After a key the tokens of items are read as their events up to the next key. -/
theorem parses_itemsAfterKey {items : List Content} (tail : List Token)
    (parsed : ∀ part ∈ items, Parsed part)
    (enough : (itemTokens items).length < fuel) (kinds : ts.map Token.kind = itemTokens items)
    (ends : t.kind ≠ .blockEntry) :
    Parses (indentlessSequence fuel) (ts ++ t :: tail) (itemEvents items ++ [.sequenceEnd])
      (t :: tail) := by
  -- The sequence ends at the first token that is no dash, which stays.
  induction items generalizing ts fuel with
  | nil =>
    obtain rfl := List.map_eq_nil_iff.mp kinds
    obtain ⟨fuel, rfl⟩ := Nat.exists_eq_succ_of_ne_zero (Nat.ne_zero_of_lt enough)
    rw [indentlessSequence]
    refine parses_peek ?_
    split
    · next dash => exact absurd dash ends
    · exact parses_emit _ t.start
  | cons item items ih =>
    obtain ⟨first, others⟩ := List.forall_mem_cons.mp parsed
    obtain ⟨fuel, rfl⟩ := Nat.exists_eq_succ_of_ne_zero (Nat.ne_zero_of_lt enough)
    obtain ⟨start, finish, next, mine, later, rfl, laterKinds, less, starts, node⟩ :=
      exists_itemRead (t :: tail) first enough kinds
    have rest := ih others less laterKinds
    obtain ⟨inner, other, dashless⟩ := starts.not_ends
    rw [indentlessSequence]
    refine parses_peek (parses_skipAndPeek ?_)
    dsimp only
    rw [if_neg (by simp [inner, dashless rfl])]
    simpa [itemEvents] using node.bind rest

/-- After a key the tokens of a value are at most the two ends of a sequence fewer. -/
theorem length_tokens_keyed (value : Content) (keyed : Bool) :
    (tokens false value).length ≤ (tokens keyed value).length + 2 := by
  cases value with
  | sequence items =>
    cases items with
    | nil => simp [tokens]
    | cons item rest => cases keyed <;> simp [tokens]
  | mapping entries => cases entries <;> simp [tokens]
  | _ => simp [tokens]

/-- After a value comes the next key or the end of the mapping, but no dash. -/
theorem exists_afterValue {entries : List (String × Content)} {later : List Token}
    (tail : List Token) (kinds : later.map Token.kind = entryTokens entries)
    (ends : t.kind = .blockEnd) :
    ∃ t' rest, later ++ t :: tail = t' :: rest ∧ t'.kind ≠ .blockEntry := by
  cases entries with
  | nil =>
    obtain rfl := List.map_eq_nil_iff.mp kinds
    exact ⟨t, tail, rfl, by simp [ends]⟩
  | cons entry entries =>
    obtain ⟨t', rest, rfl, kind, -⟩ := List.map_eq_cons_iff.mp kinds
    exact ⟨t', rest ++ t :: tail, rfl, by simp [kind]⟩

/-- After its key and the colon a value is read as its events, up to the next key. -/
theorem exists_entryRead {name : String} {value : Content} {entries : List (String × Content)}
    (tail : List Token) (parsed : Parsed value)
    (enough : (entryTokens ((name, value) :: entries)).length < fuel + 1)
    (kinds : ts.map Token.kind = entryTokens ((name, value) :: entries))
    (ends : t.kind = .blockEnd) :
    ∃ start finish key colon finish' next mine later,
      ts = ⟨.key, start, finish⟩ :: key :: ⟨.value, colon, finish'⟩ :: next :: (mine ++ later) ∧
      key.kind = .scalar name (keyStyle name).presentation ∧
      later.map Token.kind = entryTokens entries ∧ (entryTokens entries).length < fuel ∧
      endsBlockNode next.kind = false ∧
      Parses (node fuel true true) (next :: (mine ++ (later ++ t :: tail))) (events value)
        (later ++ t :: tail) := by
  obtain ⟨⟨_, start, finish⟩, _, rfl, rfl, keyKinds⟩ := List.map_eq_cons_iff.mp kinds
  obtain ⟨key, _, rfl, keyKind, colonKinds⟩ := List.map_eq_cons_iff.mp keyKinds
  obtain ⟨⟨_, colon, finish'⟩, _, rfl, rfl, valueKinds⟩ := List.map_eq_cons_iff.mp colonKinds
  obtain ⟨mine, later, rfl, mineKinds, laterKinds⟩ := List.map_eq_append_iff.mp valueKinds
  simp only [entryTokens, List.length_cons, List.length_append] at enough
  -- A list after its key may be written without its two ends, which the fuel counts all the same.
  have longer := length_tokens_keyed value (isInlineKey name.toList)
  have node := parsed fuel (isInlineKey name.toList) true mine (later ++ t :: tail) (by omega)
    (by simp) mineKinds fun _ => exists_afterValue tail laterKinds ends
  obtain ⟨kind, _, shape, starts⟩ := exists_tokens (isInlineKey name.toList) value
  obtain ⟨next, mine, rfl, rfl, -⟩ := List.map_eq_cons_iff.mp (mineKinds.trans shape)
  exact ⟨start, finish, key, colon, finish', next, mine, later, rfl, keyKind, laterKinds, by omega,
    starts.not_ends.1, node⟩

/-- The tokens of entries are read as their events. -/
theorem parses_entries {entries : List (String × Content)} (tail : List Token) (since : Mark)
    (parsed : ∀ part ∈ entries, Parsed part.2)
    (enough : (entryTokens entries).length < fuel)
    (kinds : ts.map Token.kind = entryTokens entries) (ends : t.kind = .blockEnd) :
    Parses (blockMapping fuel since) (ts ++ t :: tail)
      (entryEvents entries ++ [.mappingEnd]) tail := by
  -- Each entry has a key, a colon and the tokens of its value, which leave those of the others.
  induction entries generalizing ts fuel with
  | nil =>
    obtain rfl := List.map_eq_nil_iff.mp kinds
    obtain ⟨fuel, rfl⟩ := Nat.exists_eq_succ_of_ne_zero (Nat.ne_zero_of_lt enough)
    obtain ⟨_, start, finish⟩ := t
    obtain rfl := ends
    rw [blockMapping]
    exact parses_peek (parses_skip (parses_emit _ start))
  | cons entry entries ih =>
    obtain ⟨name, value⟩ := entry
    obtain ⟨first, others⟩ : Parsed value ∧ ∀ part ∈ entries, Parsed part.2 :=
      List.forall_mem_cons.mp parsed
    obtain ⟨fuel, rfl⟩ := Nat.exists_eq_succ_of_ne_zero (Nat.ne_zero_of_lt enough)
    obtain ⟨start, finish, key, colon, finish', next, mine, later, rfl, keyKind, laterKinds, less,
      inner, node⟩ := exists_entryRead tail first enough kinds ends
    have rest := ih others less laterKinds
    obtain ⟨fuel, rfl⟩ := Nat.exists_eq_succ_of_ne_zero (Nat.ne_zero_of_lt less)
    -- The events are those of the key, then those of its value, then those of the rest.
    have whole : entryEvents ((name, value) :: entries) ++ [.mappingEnd] =
        [.scalar none none name (keyStyle name).presentation] ++
          (events value ++ (entryEvents entries ++ [.mappingEnd])) := by simp [entryEvents]
    rw [blockMapping, whole]
    -- The key is a node of its own, and the colon after it announces the value.
    refine parses_peek (parses_skipAndPeek ?_)
    dsimp only
    rw [keyKind, if_neg (by simp [endsBlockNode])]
    refine (parses_scalar keyKind).bind (parses_peek ?_)
    dsimp only
    rw [if_pos rfl]
    refine parses_skipAndPeek ?_
    rw [if_neg (by simp [inner])]
    simpa using node.bind rest

/-- A sequence is read as its events. -/
theorem parsed_sequence {item : Content} {rest : List Content}
    (parsed : ∀ part ∈ item :: rest, Parsed part) : Parsed (.sequence (item :: rest)) := by
  intro fuel keyed indentless ts tail enough after kinds ends
  simp only [tokens, Bool.false_eq_true, if_false, List.length_cons, List.length_append,
    List.length_nil] at enough
  obtain ⟨fuel, rfl⟩ : ∃ n, fuel = n + 1 := Nat.exists_eq_succ_of_ne_zero (by omega)
  cases keyed with
  | true =>
    -- After a key a sequence has no tokens for its start and its end.
    obtain ⟨t, tail, rfl, other⟩ := ends rfl
    rw [after rfl]
    have items := parses_itemsAfterKey tail parsed
      (show (itemTokens (item :: rest)).length < fuel by omega) kinds other
    obtain ⟨dash, more, rfl, kind, -⟩ := List.map_eq_cons_iff.mp kinds
    exact parses_indentless kind items
  -- Elsewhere its tokens are enclosed by those two.
  | false =>
    obtain ⟨start, mine, finish, rfl, kind, mineKinds, ended⟩ := exists_enclosed kinds
    have items := parses_items tail start.start parsed
      (show (itemTokens (item :: rest)).length < fuel by omega) mineKinds ended
    simpa [events] using parses_blockSequence kind items

/-- A mapping is read as its events. -/
theorem parsed_mapping {entry : String × Content} {rest : List (String × Content)}
    (parsed : ∀ part ∈ entry :: rest, Parsed part.2) : Parsed (.mapping (entry :: rest)) := by
  intro fuel keyed indentless ts tail enough after kinds ends
  simp only [tokens, List.length_cons, List.length_append, List.length_nil] at enough
  obtain ⟨fuel, rfl⟩ : ∃ n, fuel = n + 1 := Nat.exists_eq_succ_of_ne_zero (by omega)
  obtain ⟨start, mine, finish, rfl, kind, mineKinds, ended⟩ := exists_enclosed kinds
  have entries := parses_entries tail start.start parsed
    (show (entryTokens (entry :: rest)).length < fuel by omega) mineKinds ended
  simpa [events] using parses_blockMapping kind entries

/-- Every value is read as its events. -/
theorem parsed (value : Content) : Parsed value :=
  value.inductionOn (fun _ leaf => parsed_leaf leaf) (fun _ _ parts => parsed_sequence parts)
    fun _ _ parts => parsed_mapping parts

/-- Before a document without directives the standard handles are known. -/
theorem gives_directives {keyed : Bool} (starts : StartsNode keyed t.kind) (fuel : Nat)
    (fault : Option Malformed) : Gives (directives (fuel + 1) false) ⟨t :: ts, fault, [], []⟩ ()
      ⟨t :: ts, fault, [], standardHandles⟩ := by
  obtain ⟨kind, start, finish⟩ := t
  -- No directive starts a node.
  cases kind <;> first | rfl | cases starts

/-- The document of a value is all there is. -/
theorem gives_firstDocument {value : Content} {finish : Token} (fuel : Nat) (start : Token)
    (kinds : ts.map Token.kind = tokens false value)
    (enough : (tokens false value).length ≤ fuel + 1) (ends : finish.kind = .streamEnd) :
    ∃ new, new.map Event.kind = (events value).reverse ∧
      Gives (firstDocument (fuel + 1)) ⟨start :: (ts ++ [finish]), none, [], []⟩ ()
        ⟨[finish], none, new, standardHandles⟩ := by
  obtain ⟨new, same, node⟩ := parsed value (fuel + 1) false false ts [finish] enough (by simp) kinds
    (by simp) none [] standardHandles
  rw [List.append_nil] at node
  obtain ⟨kind, kinds', shape, starts⟩ := exists_tokens false value
  obtain ⟨t, ts, rfl, rfl, -⟩ := List.map_eq_cons_iff.mp (kinds.trans shape)
  -- The first token belongs to the document, which needs no marker then.
  obtain ⟨inside, other⟩ : isOutside t.kind = false ∧ t.kind ≠ .streamEnd := by
    revert starts
    cases t.kind <;> simp [StartsNode, isOutside]
  refine ⟨new, same, Gives.bind (a := ()) rfl (Gives.bind (a := t) rfl ?_)⟩
  dsimp only
  rw [if_neg other, if_pos (by simp [inside])]
  refine (gives_directives starts fuel none).bind (node.bind (Gives.bind (a := finish) rfl ?_))
  rw [ends]
  rfl

end Grammar

open Grammar

/-- The events of a written collection are read from its text, and nothing follows them. -/
theorem read_document {value : Content} (parts : ¬value.IsLeaf) : ∃ es,
    Stream.read (document value) = ⟨⟨es, none⟩, false⟩ ∧ es.map Event.kind = events value := by
  obtain ⟨ts, scanned, kinds⟩ := scan_document parts
  obtain ⟨start, mine, finish, rfl, -, mineKinds, ended⟩ := exists_enclosed kinds
  -- Between the first token and the last one are those of the value.
  obtain ⟨new, same, gives⟩ :=
    gives_firstDocument (4 * (start :: (mine ++ [finish])).length + 7) start mineKinds
      (by simp [← mineKinds]; omega) ended
  have run : Gives (Grammar.peek >>= fun _ =>
      Grammar.firstDocument (4 * (start :: (mine ++ [finish])).length + 8))
      ⟨start :: (mine ++ [finish]), none, [], []⟩ ()
      ⟨[finish], none, new, Grammar.standardHandles⟩ := Gives.bind (a := start) rfl gives
  refine ⟨new.reverse, ?_, by simp [same]⟩
  -- What is left after the document is the end of the text alone.
  unfold Gives at run
  unfold Stream.read
  rw [scanned]
  dsimp only
  rw [run]
  simp [Progress.hasMore, ended]

end ToolPolicy.Yaml
