import ToolPolicy.Proofs.Yaml.Grammar
import ToolPolicy.Yaml.Parser

/-! From the events of a written value to the value. -/

namespace ToolPolicy.Yaml

namespace Value

mutual

/-- What a written value is read as. -/
def ofContent : Content → Value
  | .null => null
  | .bool b => bool b
  | .int n => number (.integer n)
  | .float x => number (.float x)
  | .string s => string s
  | .sequence items => sequence (ofItems items)
  | .mapping entries => mapping (ofEntries entries)

def ofItems : List Content → List Value
  | [] => []
  | item :: rest => ofContent item :: ofItems rest

def ofEntries : List (String × Content) → List (Value × Value)
  | [] => []
  | (key, value) :: rest => (string key, ofContent value) :: ofEntries rest

end

end Value

/-! ### Scalars -/

/-- A string reads back as itself in every style that it takes. -/
theorem scalarValue_string (withinLine : Bool) (s : String) :
    scalarValue none false s (style withinLine s.toList).presentation = .ok (.string s) := by
  unfold scalarValue
  cases chosen : style withinLine s.toList with
  -- Only a plain scalar is asked for what it stands for.
  | plain =>
    have meaning := resolve_of_style chosen
    simp [Style.presentation, meaning, valueOf]
  | singleQuoted | doubleQuoted | literal => rfl

/-- A scalar reads back as itself. -/
theorem scalarValue_word {value : Content} {cs : List Char} {style : Style} (sound : value.IsSound)
    (word : Leaf.ofContent value = .word cs style) :
    scalarValue none false (String.ofList cs) style.presentation = .ok (Value.ofContent value) := by
  cases sound with
  | null =>
    obtain ⟨rfl, rfl⟩ := Leaf.word.inj word
    rfl
  | bool b =>
    obtain ⟨rfl, rfl⟩ := Leaf.word.inj word
    cases b <;> rfl
  -- Numbers are written plainly, and resolved when they are read.
  | int low high =>
    obtain ⟨rfl, rfl⟩ := Leaf.word.inj word
    have meaning := resolve_ofInt low (high.trans (by decide))
    simp [scalarValue, Style.presentation, meaning, valueOf, Value.ofContent]
  | float number =>
    obtain ⟨rfl, rfl⟩ := Leaf.word.inj word
    have meaning := resolve_chars number
    simp [scalarValue, Style.presentation, meaning, valueOf, Value.ofContent]
  | string s =>
    obtain ⟨rfl, rfl⟩ := Leaf.word.inj word
    rw [String.ofList_toList]
    exact scalarValue_string false s
  | sequence parts => cases word
  | mapping distinct parts => cases word

/-! ### Pieces -/

/-- The piece that an event stands for where there are no anchors. -/
def Event.Kind.piece : Event.Kind → Piece
  | .alias _ => .alias 0
  | .scalar _ tag text presentation => .scalar tag text presentation
  | .sequenceStart _ tag => .sequenceStart tag
  | .sequenceEnd => .sequenceEnd
  | .mappingStart _ tag => .mappingStart tag
  | .mappingEnd => .mappingEnd

/-- Whether an event neither names an anchor nor sets one. -/
def Event.Kind.IsFree : Event.Kind → Prop
  | .alias _ => False
  | .scalar anchor _ _ _ | .sequenceStart anchor _ | .mappingStart anchor _ => anchor = none
  | .sequenceEnd | .mappingEnd => True

/-- Events without anchors are put together one by one. -/
theorem collect_eq (known : Assembly.Known) (place : Nat) {es : List Event}
    (free : ∀ e ∈ es, e.kind.IsFree) :
    Assembly.collect known place es = (es.map fun e => (e.kind.piece, e.mark), known, none) := by
  induction es generalizing place with
  | nil => rfl
  | cons e rest ih =>
    obtain ⟨first, others⟩ := List.forall_mem_cons.mp free
    obtain ⟨kind, mark⟩ := e
    -- An event without an anchor notes nothing.
    match kind, first with
    | .scalar _ tag text presentation, rfl | .sequenceStart _ tag, rfl | .mappingStart _ tag, rfl =>
      simp [Assembly.collect, Assembly.Known.note, ih _ others, Event.Kind.piece]
    | .sequenceEnd, _ | .mappingEnd, _ => simp [Assembly.collect, ih _ others, Event.Kind.piece]

/-- A written value sets no anchors. -/
theorem isFree_events (value : Content) : ∀ kind ∈ events value, kind.IsFree := by
  -- The induction is on the value, and within a collection on its parts.
  induction value using Content.inductionOn with
  | leaf value leaf =>
    rw [events_leaf leaf]
    cases Leaf.ofContent value <;> simp [Leaf.events, Event.Kind.IsFree]
  | ofItems item rest parts =>
    have items : ∀ kind ∈ itemEvents (item :: rest), kind.IsFree := by
      generalize item :: rest = items at parts
      induction items with
      | nil => simp [itemEvents]
      | cons item rest ih =>
        obtain ⟨first, others⟩ := List.forall_mem_cons.mp parts
        rw [itemEvents]
        exact List.forall_mem_append.mpr ⟨first, ih others⟩
    intro kind member
    simp only [events, List.mem_cons, List.mem_append, List.not_mem_nil, or_false] at member
    rcases member with rfl | member | rfl
    · rfl
    · exact items kind member
    · trivial
  | ofEntries entry rest parts =>
    have entries : ∀ kind ∈ entryEvents (entry :: rest), kind.IsFree := by
      generalize entry :: rest = entries at parts
      induction entries with
      | nil => simp [entryEvents]
      | cons entry rest ih =>
        obtain ⟨first, others⟩ := List.forall_mem_cons.mp parts
        rw [entryEvents]
        exact List.forall_mem_cons.mpr ⟨rfl, List.forall_mem_append.mpr ⟨first, ih others⟩⟩
    intro kind member
    simp only [events, List.mem_cons, List.mem_append, List.not_mem_nil, or_false] at member
    rcases member with rfl | member | rfl
    · rfl
    · exact entries kind member
    · trivial

/-! ### Values -/

/-- The pieces of a value, whatever follows them, are read as the value. -/
def ReadsBack (value : Content) : Prop :=
  ∀ (a : Assembly) (fuel depth : Nat) (path : Path) (ps rest : List (Piece × Mark)) (jumps : Nat),
    value.IsSound → value.depth ≤ depth →
    ps.map Prod.fst = (events value).map Event.Kind.piece → (events value).length ≤ fuel →
    readValue a fuel depth path false ⟨ps ++ rest, jumps⟩ =
      .ok (Value.ofContent value, ⟨rest, jumps⟩)

/-- Whether a piece starts a value. -/
def Piece.StartsValue : Piece → Prop
  | .scalar .. | .sequenceStart _ | .mappingStart _ => True
  | _ => False

/-- The first piece of a value starts it. -/
theorem exists_events (value : Content) : ∃ kind rest,
    events value = kind :: rest ∧ kind.piece.StartsValue := by
  cases value <;> exact ⟨_, _, rfl, trivial⟩

variable {a : Assembly} {fuel depth jumps : Nat} {path : Path} {ps rest : List (Piece × Mark)}
  {p : Piece × Mark}

/-- A scalar that reads back as a value is read as it. -/
theorem readsBack_scalar {value : Content} {text : String} {presentation : Presentation}
    (kinds : events value = [.scalar none none text presentation])
    (reads :
      value.IsSound → scalarValue none false text presentation = .ok (Value.ofContent value)) :
    ReadsBack value := by
  intro a fuel depth path ps rest jumps sound _ pieces enough
  rw [kinds] at pieces enough
  -- There is one piece, which is the scalar.
  obtain ⟨⟨_, mark⟩, more, rfl, rfl, nothing⟩ := List.map_eq_cons_iff.mp pieces
  obtain rfl := List.map_eq_nil_iff.mp nothing
  obtain ⟨fuel, rfl⟩ := Nat.exists_eq_add_of_le' enough
  simp [readValue, Event.Kind.piece, ownTag?, reads sound]

/-- An item is read before those that follow it. -/
theorem readItems_cons {index : Nat} (starts : p.1.StartsValue) :
    readItems a (fuel + 1) depth path index ⟨p :: rest, jumps⟩ =
      match readValue a fuel depth (.item path index) false ⟨p :: rest, jumps⟩ with
      | .error e => .error e
      | .ok (item, r) =>
        (readItems a fuel depth path (index + 1) r).map fun (items, r) => (item :: items, r) := by
  obtain ⟨piece, mark⟩ := p
  rw [readItems]
  cases piece <;> first | rfl | cases starts

/-- The pieces of items are read as the items. -/
theorem readItems_eq {items : List Content} (index : Nat) (parts : ∀ item ∈ items, ReadsBack item)
    (sound : ∀ item ∈ items, item.IsSound) (shallow : ∀ item ∈ items, item.depth ≤ depth)
    (pieces : ps.map Prod.fst = (itemEvents items).map Event.Kind.piece)
    (ends : p.1 = .sequenceEnd) (enough : (itemEvents items).length < fuel) :
    readItems a fuel depth path index ⟨ps ++ p :: rest, jumps⟩ =
      .ok (Value.ofItems items, ⟨rest, jumps⟩) := by
  -- The pieces of the first item come first, and the reader goes on after them.
  induction items generalizing ps fuel index with
  | nil =>
    obtain rfl := List.map_eq_nil_iff.mp pieces
    obtain ⟨fuel, rfl⟩ := Nat.exists_eq_succ_of_ne_zero (Nat.ne_zero_of_lt enough)
    obtain ⟨_, mark⟩ := p
    obtain rfl := ends
    rw [readItems]
    rfl
  | cons item items ih =>
    obtain ⟨part, laterParts⟩ := List.forall_mem_cons.mp parts
    obtain ⟨firstSound, laterSound⟩ := List.forall_mem_cons.mp sound
    obtain ⟨firstShallow, laterShallow⟩ := List.forall_mem_cons.mp shallow
    obtain ⟨fuel, rfl⟩ := Nat.exists_eq_succ_of_ne_zero (Nat.ne_zero_of_lt enough)
    rw [itemEvents, List.map_append] at pieces
    obtain ⟨mine, later, rfl, minePieces, laterPieces⟩ := List.map_eq_append_iff.mp pieces
    obtain ⟨kind, kinds, shape, starts⟩ := exists_events item
    simp only [itemEvents, List.length_append] at enough
    -- An item has an event at least, so that the others are read with less fuel.
    have some : 0 < (events item).length := by simp [shape]
    have first := part a fuel depth (.item path index) mine (later ++ p :: rest) jumps firstSound
      firstShallow minePieces (by omega)
    have others := ih (index + 1) laterParts laterSound laterShallow laterPieces
      (show (itemEvents items).length < fuel by omega)
    rw [shape, List.map_cons] at minePieces
    obtain ⟨head, mine, rfl, same, -⟩ := List.map_eq_cons_iff.mp minePieces
    simp only [List.append_assoc, List.cons_append] at first ⊢
    rw [readItems_cons (same ▸ starts), first]
    simp only [others, Except.map, Value.ofItems]

/-- A sequence of values that read back reads back. -/
theorem readsBack_sequence {items : List Content} (parts : ∀ item ∈ items, ReadsBack item) :
    ReadsBack (.sequence items) := by
  intro a fuel depth path ps rest jumps sound shallow pieces enough
  cases sound with
  | sequence soundParts =>
    simp only [events, List.map_cons, List.map_append, List.map_nil] at pieces
    simp only [events, List.length_cons, List.length_append, List.length_nil] at enough
    rw [Content.depth] at shallow
    obtain ⟨⟨_, mark⟩, mine, finish, rfl, rfl, minePieces, ends⟩ := exists_enclosed pieces
    obtain ⟨fuel, rfl⟩ : ∃ n, fuel = n + 1 := Nat.exists_eq_succ_of_ne_zero (by omega)
    -- The depth and the fuel each go down by one on the way to the items.
    obtain ⟨depth, rfl⟩ : ∃ n, depth = n + 1 := Nat.exists_eq_succ_of_ne_zero (by omega)
    have inner : readItems a fuel depth path 0 ⟨mine ++ finish :: rest, jumps⟩ =
        .ok (Value.ofItems items, ⟨rest, jumps⟩) :=
      readItems_eq 0 parts soundParts
        (fun item member => (Content.depth_item member).trans (Nat.le_of_succ_le_succ shallow))
        minePieces ends (by omega)
    simp [readValue, Event.Kind.piece, ownTag?, inner, Except.map, Value.ofContent]

/-- An entry is read before those that follow it, unless its key is known. -/
theorem readEntries_cons {key : String} {presentation : Presentation} {mark mark' : Mark}
    {known : List (Value × Value)}
    (reads : scalarValue none false key presentation = .ok (.string key))
    (fresh : known.find? (·.1.same (.string key)) = none) :
    readEntries a (fuel + 2) depth path mark false known
        ⟨(.scalar none key presentation, mark') :: rest, jumps⟩ =
      match readValue a (fuel + 1) depth (.field path key) false ⟨rest, jumps⟩ with
      | .error e => .error e
      | .ok (value, r) =>
        readEntries a (fuel + 1) depth path mark false ((.string key, value) :: known) r := by
  -- The key is read like any other scalar, and is not among those known.
  have first : readValue a (fuel + 1) depth path false
      ⟨(.scalar none key presentation, mark') :: rest, jumps⟩ =
        .ok (.string key, ⟨rest, jumps⟩) := by
    simp [readValue, ownTag?, reads]
  rw [readEntries]
  cases under : readValue a (fuel + 1) depth (.field path key) false ⟨rest, jumps⟩ <;>
    simp only [first, fresh, List.head?_cons, pathUnder, under]

/-- The pieces of entries start with the first key and the pieces of its value. -/
theorem exists_entryPieces {key : String} {value : Content} {entries : List (String × Content)}
    (pieces : ps.map Prod.fst = (entryEvents ((key, value) :: entries)).map Event.Kind.piece) :
    ∃ mark mine later,
      ps = (.scalar none key (keyStyle key).presentation, mark) :: (mine ++ later) ∧
      mine.map Prod.fst = (events value).map Event.Kind.piece ∧
      later.map Prod.fst = (entryEvents entries).map Event.Kind.piece := by
  rw [entryEvents, List.map_cons, List.map_append] at pieces
  obtain ⟨⟨_, mark⟩, more, rfl, rfl, others⟩ := List.map_eq_cons_iff.mp pieces
  obtain ⟨mine, later, rfl, minePieces, laterPieces⟩ := List.map_eq_append_iff.mp others
  exact ⟨mark, mine, later, rfl, minePieces, laterPieces⟩

/-- Keys that are not known yet stay so when another key becomes known. -/
theorem find?_cons_of_other {key : String} {entries : List (String × Content)}
    {known : List (Value × Value)} (value : Value) (other : key ∉ entries.map Prod.fst)
    (fresh : ∀ entry ∈ entries, known.find? (·.1.same (.string entry.1)) = none) :
    ∀ entry ∈ entries,
      ((Value.string key, value) :: known).find? (·.1.same (.string entry.1)) = none := by
  intro entry member
  -- The new key is none of those to come, since the keys are distinct.
  have apart : key ≠ entry.1 := by
    rintro rfl
    exact other (List.mem_map_of_mem member)
  rw [List.find?_cons_of_neg (by simpa [Value.same] using apart)]
  exact fresh entry member

/-- The pieces of entries are read as the entries, in reverse. -/
theorem readEntries_eq {entries : List (String × Content)} {mark : Mark}
    {known : List (Value × Value)} (parts : ∀ entry ∈ entries, ReadsBack entry.2)
    (distinct : (entries.map Prod.fst).Nodup)
    (fresh : ∀ entry ∈ entries, known.find? (·.1.same (.string entry.1)) = none)
    (sound : ∀ entry ∈ entries, entry.2.IsSound)
    (shallow : ∀ entry ∈ entries, entry.2.depth ≤ depth)
    (pieces : ps.map Prod.fst = (entryEvents entries).map Event.Kind.piece)
    (ends : p.1 = .mappingEnd) (enough : (entryEvents entries).length < fuel) :
    readEntries a fuel depth path mark false known ⟨ps ++ p :: rest, jumps⟩ =
      .ok ((Value.ofEntries entries).reverse ++ known, ⟨rest, jumps⟩) := by
  -- The entries that are known grow by one each round, and no later key agrees with them.
  induction entries generalizing ps fuel known with
  | nil =>
    obtain rfl := List.map_eq_nil_iff.mp pieces
    obtain ⟨fuel, rfl⟩ := Nat.exists_eq_succ_of_ne_zero (Nat.ne_zero_of_lt enough)
    obtain ⟨_, mark⟩ := p
    obtain rfl := ends
    rw [readEntries]
    rfl
  | cons entry entries ih =>
    obtain ⟨key, value⟩ := entry
    obtain ⟨part, laterParts⟩ : ReadsBack value ∧ ∀ entry ∈ entries, ReadsBack entry.2 :=
      List.forall_mem_cons.mp parts
    obtain ⟨firstFresh, laterFresh⟩ := List.forall_mem_cons.mp fresh
    obtain ⟨firstSound, laterSound⟩ := List.forall_mem_cons.mp sound
    obtain ⟨firstShallow, laterShallow⟩ := List.forall_mem_cons.mp shallow
    obtain ⟨other, laterDistinct⟩ := List.nodup_cons.mp distinct
    obtain ⟨mark', mine, later, rfl, minePieces, laterPieces⟩ := exists_entryPieces pieces
    obtain ⟨kind, kinds, shape, -⟩ := exists_events value
    simp only [entryEvents, List.length_cons, List.length_append] at enough
    have some : 0 < (events value).length := by simp [shape]
    obtain ⟨fuel, rfl⟩ : ∃ n, fuel = n + 2 := ⟨fuel - 2, by omega⟩
    have first := part a (fuel + 1) depth (.field path key) mine (later ++ p :: rest) jumps
      firstSound firstShallow minePieces (by omega)
    -- The keys of the later entries are other than this one, by which the known ones grow.
    have stillFresh := find?_cons_of_other (Value.ofContent value) other laterFresh
    have rest := ih laterParts laterDistinct stillFresh laterSound laterShallow laterPieces
      (show (entryEvents entries).length < fuel + 1 by omega)
    simp only [List.append_assoc, List.cons_append] at first ⊢
    have reads : scalarValue none false key (keyStyle key).presentation = .ok (.string key) :=
      scalarValue_string (isInlineKey key.toList) key
    rw [readEntries_cons reads firstFresh, first]
    simp only [rest, Value.ofEntries, List.reverse_cons, List.append_assoc, List.singleton_append]

/-- A mapping of values that read back reads back. -/
theorem readsBack_mapping {entries : List (String × Content)}
    (parts : ∀ entry ∈ entries, ReadsBack entry.2) : ReadsBack (.mapping entries) := by
  intro a fuel depth path ps rest jumps sound shallow pieces enough
  cases sound with
  | mapping distinct soundParts =>
    simp only [events, List.map_cons, List.map_append, List.map_nil] at pieces
    simp only [events, List.length_cons, List.length_append, List.length_nil] at enough
    rw [Content.depth] at shallow
    obtain ⟨⟨_, mark⟩, mine, finish, rfl, rfl, minePieces, ends⟩ := exists_enclosed pieces
    obtain ⟨fuel, rfl⟩ : ∃ n, fuel = n + 1 := Nat.exists_eq_succ_of_ne_zero (by omega)
    obtain ⟨depth, rfl⟩ : ∃ n, depth = n + 1 := Nat.exists_eq_succ_of_ne_zero (by omega)
    -- Between its start and its end a mapping has the pieces of its entries.
    have inner : readEntries a fuel depth path mark false [] ⟨mine ++ finish :: rest, jumps⟩ =
        .ok ((Value.ofEntries entries).reverse ++ [], ⟨rest, jumps⟩) :=
      readEntries_eq parts distinct (by simp) soundParts
        (fun entry member => (Content.depth_entry member).trans (Nat.le_of_succ_le_succ shallow))
        minePieces ends (by omega)
    simp [readValue, Event.Kind.piece, ownTag?, inner, Except.map, Value.ofContent]

/-- Every value reads back. -/
theorem readsBack (value : Content) : ReadsBack value := by
  induction value using Content.inductionOn with
  | leaf value leaf =>
    -- A value without parts is read as a scalar, unless it is an empty collection.
    have words {cs : List Char} {style : Style} (word : Leaf.ofContent value = .word cs style)
        (kinds : events value = (Leaf.ofContent value).events) : ReadsBack value := by
      rw [word] at kinds
      exact readsBack_scalar kinds fun sound => scalarValue_word sound word
    cases value with
    | sequence items =>
      cases items with
      | nil => exact readsBack_sequence (by simp)
      | cons item rest => cases leaf
    | mapping entries =>
      cases entries with
      | nil => exact readsBack_mapping (by simp)
      | cons entry rest => cases leaf
    | _ => exact words rfl rfl
  | ofItems item rest parts => exact readsBack_sequence parts
  | ofEntries entry rest parts => exact readsBack_mapping parts

/-- A written collection is read from its text. -/
theorem parse_document {value : Content} (parts : ¬value.IsLeaf) (sound : value.IsSound)
    (shallow : value.depth ≤ maxDepth) : parse (document value) = .ok (Value.ofContent value) := by
  obtain ⟨es, read, kinds⟩ := read_document parts
  have free : ∀ e ∈ es, e.kind.IsFree := fun e member =>
    isFree_events value e.kind (kinds ▸ List.mem_map_of_mem member)
  have pieces : (es.map fun e => (e.kind.piece, e.mark)).map Prod.fst =
      (events value).map Event.Kind.piece := by
    rw [← kinds]
    simp [Function.comp_def]
  have length : es.length = (events value).length := by rw [← kinds, List.length_map]
  obtain ⟨kind, others, shape, -⟩ := exists_events value
  have some : es.isEmpty = false := by
    cases es with
    | nil => simp [shape] at length
    | cons e es => rfl
  -- No event has an anchor, so that each is a piece and none is referred to.
  have assembled : Assembly.ofDocument ⟨es, none⟩ =
      ⟨es.map fun e => (e.kind.piece, e.mark), [], none⟩ := by
    simp [Assembly.ofDocument, collect_eq _ _ free]
  -- The fuel is more than the number of pieces, since no alias is followed.
  have reads := readsBack value ⟨es.map fun e => (e.kind.piece, e.mark), [], none⟩
    ((Assembly.maxJumps ⟨es.map fun e => (e.kind.piece, e.mark), [], none⟩ + 2) *
      (2 * (es.map fun e => (e.kind.piece, e.mark)).length + 4)) maxDepth .root _ [] 0 sound shallow
    pieces (by rw [List.length_map, length]; nlinarith)
  rw [List.append_nil] at reads
  unfold parse
  simp only [read, Value.ofDocument, some, Bool.false_and, Bool.false_eq_true, if_false, assembled,
    reads]

end ToolPolicy.Yaml
