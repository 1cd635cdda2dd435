import ToolPolicy.Proofs.Yaml.Delivery
import ToolPolicy.Proofs.Yaml.Tokens

/-! Reading the tokens of a written text. -/

namespace ToolPolicy.Yaml

/-! ### Readable characters -/

/-- What may be written as it is may be read. -/
theorem isReadable_of_isPrintable {c : Char} (printable : isPrintable c = true) :
    isReadable c = true := by
  simp only [isPrintable, isReadable, Bool.or_eq_true, Bool.and_eq_true, beq_iff_eq,
    decide_eq_true_eq, bne_iff_ne] at printable ⊢
  omega

/-- A text that may be written as it is may be read. -/
theorem readable_of_printable {cs : List Char} (printable : cs.all isPrintable = true) :
    cs.all isReadable = true := by
  rw [List.all_eq_true] at printable ⊢
  exact fun c member => isReadable_of_isPrintable (printable c member)

/-- Blanks may be read. -/
@[simp]
theorem readable_blanks (n : Nat) : (blanks n).all isReadable = true := by
  rw [List.all_eq_true]
  intro c member
  rw [List.eq_of_mem_replicate member]
  rfl

/-- Hexadecimal digits may be read. -/
theorem readable_hexDigits (width n : Nat) : (hexDigits width n).all isReadable = true := by
  have digit : ∀ d < 16, isReadable (Nat.digitChar d).toUpper = true := by decide
  induction width generalizing n with
  | zero => rfl
  | succ width ih => simp [hexDigits, ih, digit (n % 16) (Nat.mod_lt n (by decide))]

/-- An escape may be read. -/
theorem readable_escapeSequence (c : Char) : (escapeSequence c).all isReadable = true := by
  unfold escapeSequence
  dsimp only
  split
  -- The escapes with a letter of their own are known; the others end with hexadecimal digits.
  case h_16 =>
    split
    · simp only [List.all_cons, readable_hexDigits]
      rfl
    · split <;> simp only [List.all_cons, readable_hexDigits] <;> rfl
  all_goals rfl

/-- What stands between double quotes may be read. -/
theorem readable_flatMap_escapeDouble (cs : List Char) :
    (cs.flatMap escapeDouble).all isReadable = true := by
  rw [List.all_flatMap, List.all_eq_true]
  intro c _
  unfold escapeDouble
  split
  · exact readable_escapeSequence c
  · next plain =>
    simp only [Bool.or_eq_true, Bool.not_eq_true', not_or, Bool.not_eq_false] at plain
    simpa using isReadable_of_isPrintable plain.1.1.1

/-- What stands between single quotes may be read. -/
theorem readable_singleBody (n : Nat) (broken : Bool) {cs : List Char}
    (readable : cs.all isReadable = true) : (singleBody n broken cs).all isReadable = true := by
  -- Nothing is added to the characters of the text but quotes and indentation.
  induction cs generalizing broken with
  | nil =>
    rw [singleBody]
    split <;> simp
  | cons c cs ih =>
    simp only [List.all_cons, Bool.and_eq_true] at readable
    rw [singleBody]
    split
    · simp [readable.1, ih true readable.2]
    · have front : (if broken then blanks n else []).all isReadable = true := by split <;> simp
      have quote : (if c == '\'' then ['\'', '\''] else [c]).all isReadable = true := by
        split
        · rfl
        · simpa using readable.1
      simp only [List.all_append, front, quote, ih false readable.2, Bool.and_self]

/-- The lines of a literal block may be read. -/
theorem readable_literalBody (n : Nat) (broken : Bool) {cs : List Char}
    (readable : cs.all isReadable = true) : (literalBody n broken cs).all isReadable = true := by
  induction cs generalizing broken with
  | nil => rfl
  | cons c cs ih =>
    simp only [List.all_cons, Bool.and_eq_true] at readable
    rw [literalBody]
    split
    · simp [readable.1, ih true readable.2]
    -- Blanks are the only thing that is put in.
    · have front : (if broken then blanks n else []).all isReadable = true := by split <;> simp
      simp only [List.all_append, List.all_cons, front, readable.1, ih false readable.2,
        Bool.and_self]

/-- The hints of a literal block may be read. -/
theorem readable_hints (cs : List Char) :
    (indentHint cs ++ chompHint cs).all isReadable = true := by
  have indent : (indentHint cs).all isReadable = true := by
    unfold indentHint
    split <;> rfl
  have chomp : (chompHint cs).all isReadable = true := by
    unfold chompHint
    split
    · rfl
    · split <;> rfl
    · split
      · rfl
      · split <;> rfl
  rw [List.all_append, indent, chomp]
  rfl

/-- A string may be read in every style that suits it. -/
theorem readable_styled (n : Nat) {cs : List Char} {style : Style} (suits : Suits cs style) :
    (styled n cs style).all isReadable = true := by
  cases style with
  -- In each style the text itself is readable, and what is added to it is as well.
  | plain =>
    have allowed := suits.2
    simp only [allowsPlain, Bool.and_eq_true] at allowed
    exact readable_of_printable allowed.1.1.1.1.1
  | singleQuoted =>
    have allowed := suits.1
    simp only [allowsSingleQuoted, Bool.and_eq_true] at allowed
    have body := readable_singleBody n false (readable_of_printable allowed.1.1)
    simp only [styled, singleQuoted, List.cons_append, List.all_cons, List.all_append, body]
    rfl
  | doubleQuoted =>
    simp only [styled, doubleQuoted, List.cons_append, List.all_cons, List.all_append,
      readable_flatMap_escapeDouble]
    rfl
  | literal =>
    have allowed : allowsLiteral cs = true := suits
    simp only [allowsLiteral, Bool.and_eq_true] at allowed
    have body := readable_literalBody n true (readable_of_printable allowed.1.1.2)
    have hints := readable_hints cs
    rw [List.all_append] at hints
    simp only [styled, literal, List.cons_append, List.append_assoc, List.all_cons, List.all_append,
      body]
    rw [← Bool.and_assoc (List.all _ _), hints]
    rfl

/-- Ending a line adds nothing that may not be read. -/
theorem readable_endLine {cs : List Char} (readable : cs.all isReadable = true) :
    (endLine cs).all isReadable = true := by
  unfold endLine
  split
  · exact readable
  · rw [List.all_append, readable]
    rfl

/-- A value without parts may be read. -/
theorem readable_leaf (value : Content) (column : Nat) :
    ((Leaf.ofContent value).text column).all isReadable = true := by
  have suited := isSuited_ofContent value
  cases leaf : Leaf.ofContent value with
  | word cs style =>
    rw [leaf] at suited
    exact readable_styled column suited
  | noItems | noEntries => rfl

/-! ### Parts of written values -/

/-- The lines of a value stand at the end of those after its key. -/
theorem exists_afterKey (indent : Nat) (value : Content) : ∃ c n column,
    afterKey indent value = c :: (blanks n ++ lines column value) ∧ isReadable c = true := by
  have ofLeaf {value : Content} (leaf : value.IsLeaf) : ∃ c n column,
      afterKey indent value = c :: (blanks n ++ lines column value) ∧ isReadable c = true :=
    ⟨' ', 0, indent + 2, afterKey_leaf leaf indent, rfl⟩
  cases value with
  -- A collection with parts starts on a line of its own.
  | sequence items =>
    cases items with
    | nil => exact ofLeaf trivial
    | cons item rest => exact ⟨'\n', indent, indent, by simp [afterKey, lines], rfl⟩
  | mapping entries =>
    cases entries with
    | nil => exact ofLeaf trivial
    | cons entry rest => exact ⟨'\n', indent + 2, indent + 2, by simp [afterKey, lines], rfl⟩
  | _ => exact ofLeaf trivial

/-- The lines of a value stand at the end of those of its entry. -/
theorem exists_entryLines (indent : Nat) (key : String) (value : Content) : ∃ front column,
    entryLines indent (key, value) = front ++ lines column value ∧ 2 ≤ front.length ∧
      front.all isReadable = true := by
  rw [entryLines]
  split
  -- A key on the line of its value is followed by a colon.
  · obtain ⟨c, n, column, same, readable⟩ := exists_afterKey indent value
    have first := readable_styled (indent + 2) (suits_style true key.toList)
    refine ⟨styled (indent + 2) key.toList (style true key.toList) ++ ':' :: c :: blanks n, column,
      by simp [same], ?_, ?_⟩
    · simp only [List.length_append, List.length_cons]
      omega
    · simp only [List.all_append, List.all_cons, first, readable, readable_blanks]
      rfl
  -- A key of its own has an indicator before it and one before its value.
  · have first := readable_endLine (readable_styled (indent + 2) (suits_style false key.toList))
    refine ⟨'?' :: ' ' :: (endLine (string (indent + 2) key) ++ (blanks indent ++ [':', ' '])),
      indent + 2, by simp [afterIndicator_eq], by simp, ?_⟩
    simp only [string, List.all_append, List.all_cons, first, readable_blanks]
    rfl

/-- Whatever is written may be read. -/
theorem readable_lines (value : Content) :
    ∀ column, (lines column value).all isReadable = true := by
  induction value using Content.inductionOn with
  | leaf value leaf =>
    intro column
    rw [lines_leaf leaf]
    exact readable_endLine (readable_leaf value column)
  | ofItems item rest parts =>
    intro column
    show (sequenceLines column (item :: rest)).all isReadable = true
    induction rest generalizing item with
    | nil =>
      -- In front of the last item there is only the dash with its blank.
      have first := parts item List.mem_cons_self
      simp only [sequenceLines_eq, List.isEmpty_nil, if_true, List.append_nil, List.all_cons,
        first]
      rfl
    | cons next rest ih =>
      obtain ⟨first, others⟩ := List.forall_mem_cons.mp parts
      simp only [sequenceLines_eq column item, List.isEmpty_cons, Bool.false_eq_true, if_false,
        List.all_cons, List.all_append, first, readable_blanks, ih next others]
      rfl
  | ofEntries entry rest parts =>
    intro column
    show (mappingLines column (entry :: rest)).all isReadable = true
    -- An entry is its key with what is around it, and then the lines of its value.
    have readable (entry : String × Content)
        (part : ∀ column, (lines column entry.2).all isReadable = true) :
        (entryLines column entry).all isReadable = true := by
      obtain ⟨front, column', same, -, readable⟩ := exists_entryLines column entry.1 entry.2
      rw [same, List.all_append, readable, part]
      rfl
    induction rest generalizing entry with
    | nil =>
      have first := readable entry (parts entry List.mem_cons_self)
      simp only [mappingLines_eq, List.isEmpty_nil, if_true, List.append_nil, first]
    | cons next rest ih =>
      obtain ⟨first, others⟩ := List.forall_mem_cons.mp parts
      simp only [mappingLines_eq column entry, List.isEmpty_cons, Bool.false_eq_true, if_false,
        List.all_append, readable entry first, readable_blanks, ih next others]
      rfl

/-- Whether the lines of a value have at least a fourth as many characters as there are tokens. -/
def IsSpacious (value : Content) : Prop :=
  ∀ keyed column, (tokens keyed value).length ≤ 4 * (lines column value).length

/-- A line has a character, and a value without parts has two tokens at most. -/
theorem isSpacious_leaf {value : Content} (leaf : value.IsLeaf) : IsSpacious value := by
  intro keyed column
  have few : (Leaf.ofContent value).tokens.length ≤ 2 := by
    cases Leaf.ofContent value <;> simp [Leaf.tokens]
  -- Ending a line adds a character to a text that has none.
  have some : 1 ≤ (endLine ((Leaf.ofContent value).text column)).length := by
    unfold endLine
    split
    · next ends =>
      cases text : (Leaf.ofContent value).text column with
      | nil => simp [text] at ends
      | cons c cs => simp
    · simp
  rw [tokens_leaf leaf, lines_leaf leaf]
  omega

/-- The dashes of a list leave room for the tokens around its items. -/
theorem length_itemTokens_le (column : Nat) (item : Content) (rest : List Content)
    (parts : ∀ part ∈ item :: rest, IsSpacious part) :
    (itemTokens (item :: rest)).length + 2 ≤ 4 * (sequenceLines column (item :: rest)).length := by
  induction rest generalizing item with
  | nil =>
    -- The dash and its blank leave room for the two tokens around the sequence.
    have first := parts item List.mem_cons_self false (column + 2)
    simp only [sequenceLines_eq, itemTokens, List.isEmpty_nil, if_true, List.append_nil,
      List.length_cons]
    omega
  | cons next rest ih =>
    obtain ⟨first, others⟩ := List.forall_mem_cons.mp parts
    have part := first false (column + 2)
    have later := ih next others
    rw [sequenceLines_eq column item, itemTokens]
    simp only [List.isEmpty_cons, Bool.false_eq_true, if_false, List.length_cons,
      List.length_append]
    omega

/-- The colon of an entry leaves room for the tokens before its key and its value. -/
theorem length_entryTokens_singleton_le (column : Nat) (key : String) {value : Content}
    (part : IsSpacious value) :
    (entryTokens [(key, value)]).length + 2 ≤ 4 * (entryLines column (key, value)).length := by
  obtain ⟨front, column', same, some, -⟩ := exists_entryLines column key value
  have few := part (isInlineKey key.toList) column'
  simp only [entryTokens, same, List.append_nil, List.length_cons, List.length_append]
  omega

/-- The entries of a mapping leave room for the tokens around them. -/
theorem length_entryTokens_le (column : Nat) (entry : String × Content)
    (rest : List (String × Content)) (parts : ∀ part ∈ entry :: rest, IsSpacious part.2) :
    (entryTokens (entry :: rest)).length + 2 ≤
      4 * (mappingLines column (entry :: rest)).length := by
  induction rest generalizing entry with
  | nil =>
    -- A single entry has room to spare, which the tokens around the mapping take.
    have first :=
      length_entryTokens_singleton_le column entry.1 (parts entry List.mem_cons_self)
    simpa [mappingLines_eq] using first
  | cons next rest ih =>
    obtain ⟨first, others⟩ := List.forall_mem_cons.mp parts
    have later := ih next others
    obtain ⟨key, value⟩ := entry
    have front := length_entryTokens_singleton_le column key first
    rw [mappingLines_eq column (key, value)]
    simp only [entryTokens, List.append_nil, List.isEmpty_cons, Bool.false_eq_true, if_false,
      List.length_cons, List.length_append] at front later ⊢
    omega

/-- A text has at least a fourth as many characters as it has tokens. -/
theorem isSpacious (value : Content) : IsSpacious value := by
  induction value using Content.inductionOn with
  | leaf value leaf => exact isSpacious_leaf leaf
  | ofItems item rest parts =>
    intro keyed column
    have items := length_itemTokens_le column item rest parts
    rw [tokens, lines]
    -- Under a key a list has no tokens of its own around its items.
    split
    · omega
    · simp only [List.length_cons, List.length_append, List.length_nil]
      omega
  | ofEntries entry rest parts =>
    intro keyed column
    have entries := length_entryTokens_le column entry rest parts
    rw [tokens, lines]
    simp only [List.length_cons, List.length_append, List.length_nil]
    omega

/-! ### The tokens of a text -/

namespace Lexer

/-- A text without faults is read to its end. -/
theorem readable_eq {cs : List Char} (readable : cs.all isReadable = true) :
    Lexer.readable cs = ⟨cs, none⟩ := by
  -- What was read before is kept in reverse, in blocks.
  have general (before block : List Char) (size offset : Nat) :
      readableFrom before block size offset cs = ⟨(block ++ before).reverse ++ cs, none⟩ := by
    induction cs generalizing before block size offset with
    | nil => simp [readableFrom]
    | cons c cs ih =>
      simp only [List.all_cons, Bool.and_eq_true] at readable
      rw [readableFrom, if_pos readable.1, ih readable.2]
      split <;> simp
  exact general [] [] 0 0

variable {m : Mark} {kinds : List Token.Kind} {l : Lexer}

/-- At the end of a text the collection that is open is closed. -/
theorem finishes_end (at_ : At [] 0 0 [-1] true kinds l) : ∃ done, Finishes l done ∧
    done.queue.map Token.kind = kinds ++ [.blockEnd, .streamEnd] := by
  have unfinished := at_.unfinished
  obtain ⟨m, queue, reached, same, -⟩ := at_
  -- The end of the text closes the one collection that is left open.
  have ended : takeToken ⟨⟨[], m⟩, true, 0, [-1], true, [none], 0, queue⟩ =
      .ok ⟨⟨[], m⟩, true, -1, [], false, [none], 0,
        queue ++ [⟨.blockEnd, m, m⟩] ++ [⟨.streamEnd, m, m⟩]⟩ := by
    simp [takeToken, takeEnd, mark, reached, closeBlocks, inFlow, closeTo, removeKey, key, take,
      push, bind, Except.bind, pure, Except.pure]
  refine ⟨_, ⟨unfinished, ended, rfl, _, _, rfl, rfl, fun u member => ?_⟩, by simp [same]⟩
  rcases List.mem_append.mp member with member | member
  · exact unfinished u member
  · rw [List.mem_singleton.mp member]
    simp

/-- The tokens of a text that lead from its start to its end are all that is read. -/
theorem scan_of_leads {cs : List Char} {kinds : List Token.Kind}
    (leads : Leads (At cs 0 (-1) [] true [.streamStart]) (At [] 0 0 [-1] true kinds))
    (starts : StartsToken cs) (readable : cs.all isReadable = true)
    (few : kinds.length ≤ 4 * cs.length) : ∃ ts, Token.scan cs = (ts, none) ∧
      ts.map Token.kind = kinds ++ [.blockEnd, .streamEnd] := by
  obtain ⟨n, last, moves, longer, reached⟩ :=
    leads _ (At.intro .start [⟨.streamStart, .start, .start⟩] rfl rfl (by simp))
  obtain ⟨done, finishes, known⟩ := finishes_end reached
  have approached := approach_self
    (l := ⟨⟨cs, .start⟩, true, -1, [], true, [none], 0, [⟨.streamStart, .start, .start⟩]⟩)
    starts (by simp) (.inr (by simp))
  -- No token was given out yet.
  have spares : Spares []
      ⟨⟨cs, .start⟩, true, -1, [], true, [none], 0, [⟨.streamStart, .start, .start⟩]⟩ :=
    ⟨rfl, List.nil_prefix, by simp⟩
  -- The tokens are few enough for the fuel that a text of this length has.
  have size := congrArg List.length known
  rw [reached.length_eq] at longer
  simp only [List.length_map, List.length_append, List.length_cons, List.length_nil] at size longer
  have ran := delivers finishes cs.length (8 * cs.length + 15) spares approached moves
    (by simp only [List.length_nil]; omega)
  refine ⟨done.queue, ?_, known⟩
  unfold Token.scan
  rw [readable_eq readable]
  dsimp only
  rw [run.eq_def]
  exact ran

end Lexer

open Lexer

/-- The tokens of a written collection are read as such. -/
theorem scan_document {value : Content} (parts : ¬value.IsLeaf) : ∃ ts,
    Token.scan (document value) = (ts, none) ∧
      ts.map Token.kind = .streamStart :: (tokens false value ++ [.streamEnd]) := by
  -- There are fewer tokens than rounds, of which the length of the text gives the number.
  have few := isSpacious value false 0
  have readable := readable_lines value 0
  have starts := startsToken_lines 0 value []
  rw [List.append_nil] at starts
  -- The text of a document is one of the lines from the first column on.
  cases value with
  | sequence items =>
    cases items with
    | nil => exact absurd trivial parts
    | cons item rest =>
      have leads := leads_items (i := 0) (k := 0) le_rfl startsToken_nil item rest
        (fun part _ => written part) (-1) [] [.streamStart] (by simp)
      rw [closed_of_le (by simp)] at leads
      simp only [blanks_zero, List.append_nil] at leads
      simp only [tokens, Bool.false_eq_true, if_false, List.length_cons, List.length_append,
        List.length_nil] at few
      obtain ⟨ts, scanned, kinds⟩ := scan_of_leads leads starts readable
        (by simp [opening]; exact few)
      exact ⟨ts, scanned, by simp [kinds, tokens, opening]⟩
  | mapping entries =>
    cases entries with
    | nil => exact absurd trivial parts
    | cons entry rest =>
      have leads := leads_entries (i := 0) (k := 0) le_rfl startsToken_nil entry rest
        (fun part _ => written part.2) (-1) [] [.streamStart] (by simp)
      rw [closed_of_le (by simp)] at leads
      simp only [blanks_zero, List.append_nil] at leads
      simp only [tokens, List.length_cons, List.length_append, List.length_nil] at few
      obtain ⟨ts, scanned, kinds⟩ := scan_of_leads leads starts readable
        (by simp [opening]; exact few)
      exact ⟨ts, scanned, by simp [kinds, tokens, opening]⟩
  | _ => exact absurd trivial parts

end ToolPolicy.Yaml
