import Mathlib.Algebra.BigOperators.Group.List.Basic
import ToolPolicy.Proofs.Content
import ToolPolicy.Proofs.Yaml.Word

/-! The tokens of a written value. -/

namespace ToolPolicy.Yaml

open Lexer

/-! ### Lengths of keys -/

/-- The length in bytes is the sum over the characters. -/
theorem byteLength_eq (cs : List Char) : Json.byteLength cs = (cs.map Char.utf8Size).sum := by
  -- The sum so far is added to what comes.
  have general (n : Nat) :
      cs.foldl (fun n c => n + c.utf8Size) n = n + (cs.map Char.utf8Size).sum := by
    induction cs generalizing n with
    | nil => rfl
    | cons c cs ih => simp [ih, Nat.add_assoc]
  simpa [Json.byteLength] using general 0

/-- Beyond the first block characters take two bytes or more. -/
theorem two_le_utf8Size {c : Char} (large : 0x7f < c.toNat) : 2 ≤ c.utf8Size := by
  unfold Char.utf8Size
  dsimp only
  split
  · next small => exact absurd (UInt32.le_iff_toNat_le.mp small) (Nat.not_le.mpr large)
  · split
    · omega
    · split <;> omega

/-- Beyond the second block characters take three bytes or more. -/
theorem three_le_utf8Size {c : Char} (large : 0x7ff < c.toNat) : 3 ≤ c.utf8Size := by
  unfold Char.utf8Size
  dsimp only
  -- A smaller size would mean a smaller code.
  split
  · next small =>
    have first := UInt32.le_iff_toNat_le.mp small
    exact absurd (first.trans (by decide)) (Nat.not_le.mpr large)
  · split
    · next small => exact absurd (UInt32.le_iff_toNat_le.mp small) (Nat.not_le.mpr large)
    · split <;> omega

/-- An escape takes at most four characters for each byte. -/
theorem length_escapeSequence (c : Char) : (escapeSequence c).length ≤ 4 * c.utf8Size := by
  -- The wider the code of a character is, the more bytes the character takes.
  have positive := c.utf8Size_pos
  unfold escapeSequence
  dsimp only
  split
  case h_16 =>
    split
    · simp only [List.length_cons, length_hexDigits]
      omega
    · next wide =>
      have size := two_le_utf8Size (c := c) (by omega)
      split
      · simp only [List.length_cons, length_hexDigits]
        omega
      · next wider =>
        have size := three_le_utf8Size (c := c) (by omega)
        simp only [List.length_cons, length_hexDigits]
        omega
  -- An escape with a letter of its own has two characters.
  all_goals
    simp only [List.length_cons, List.length_nil]
    omega

/-- A character takes at most four characters for each byte between double quotes. -/
theorem length_escapeDouble (c : Char) : (escapeDouble c).length ≤ 4 * c.utf8Size := by
  have positive := c.utf8Size_pos
  unfold escapeDouble
  -- A character is escaped, or it stands for itself.
  split
  · exact length_escapeSequence c
  · simp only [List.length_singleton]
    omega

/-- Between double quotes a text takes at most four characters for each byte. -/
theorem length_flatMap_escapeDouble (cs : List Char) :
    (cs.flatMap escapeDouble).length ≤ 4 * Json.byteLength cs := by
  rw [byteLength_eq]
  induction cs with
  | nil => simp
  | cons c cs ih =>
    have first := length_escapeDouble c
    simp only [List.flatMap_cons, List.length_append, List.map_cons, List.sum_cons]
    omega

/-- Between single quotes a line takes at most two characters for each byte. -/
theorem length_singleBody (n : Nat) {cs : List Char} (unbroken : ∀ c ∈ cs, isBreak c = false) :
    (singleBody n false cs).length ≤ 2 * Json.byteLength cs := by
  rw [byteLength_eq]
  induction cs with
  | nil => simp [singleBody]
  | cons c cs ih =>
    obtain ⟨first, others⟩ := List.forall_mem_cons.mp unbroken
    have positive := c.utf8Size_pos
    have rest := ih others
    -- A quote is doubled, and no other character takes more than one.
    rw [singleBody, if_neg (by simp [first]), if_neg (by simp)]
    simp only [List.map_cons, List.sum_cons, List.length_append, List.length_nil]
    split <;> simp only [List.length_cons, List.length_nil] <;> omega

/-- A key on the line of its value is short in every style. -/
theorem length_styled {cs : List Char} {style : Style} (n : Nat) (inline : isInlineKey cs = true)
    (line : style ≠ .literal) : (styled n cs style).length ≤ maxKeyLength := by
  simp only [isInlineKey, Bool.and_eq_true, Bool.not_eq_true', List.any_eq_false,
    decide_eq_true_eq] at inline
  obtain ⟨unbroken, short⟩ := inline
  unfold maxInlineKey at short
  have bytes := byteLength_eq cs
  unfold maxKeyLength
  cases style with
  | plain =>
    -- Every character takes a byte at least.
    have length : cs.length ≤ (cs.map Char.utf8Size).sum := by
      rw [← List.length_map Char.utf8Size]
      exact List.length_le_sum_of_one_le _ fun size member => by
        obtain ⟨c, -, rfl⟩ := List.mem_map.mp member
        exact c.utf8Size_pos
    simp only [styled]
    omega
  | singleQuoted =>
    have body := length_singleBody n (fun c member => by simpa using unbroken c member)
    simp only [styled, singleQuoted, List.length_append, List.length_cons, List.length_nil]
    omega
  | doubleQuoted =>
    have body := length_flatMap_escapeDouble cs
    simp only [styled, doubleQuoted, List.length_append, List.length_cons, List.length_nil]
    omega
  | literal => exact absurd rfl line

/-! ### Lines of values -/

/-- The lines of a value from the column where it starts. -/
def lines (column : Nat) : Content → List Char
  | .sequence (item :: rest) => sequenceLines column (item :: rest)
  | .mapping (entry :: rest) => mappingLines column (entry :: rest)
  | value => endLine ((Leaf.ofContent value).text column)

/-- The lines of a value without parts are those of its leaf. -/
theorem lines_leaf {value : Content} (leaf : value.IsLeaf) (column : Nat) :
    lines column value = endLine ((Leaf.ofContent value).text column) := by
  cases value with
  | sequence items => cases items <;> first | rfl | cases leaf
  | mapping entries => cases entries <;> first | rfl | cases leaf
  | _ => rfl

/-- A value stands on the line of its indicator. -/
theorem afterIndicator_eq (indent : Nat) (value : Content) :
    afterIndicator indent value = ' ' :: lines (indent + 2) value := by
  cases value with
  | sequence items => cases items <;> rfl
  | mapping entries => cases entries <;> rfl
  | _ => simp only [afterIndicator, lines, scalar_eq]

/-- A value without parts stands on the line of its key. -/
theorem afterKey_leaf {value : Content} (leaf : value.IsLeaf) (indent : Nat) :
    afterKey indent value = ' ' :: lines (indent + 2) value := by
  cases value with
  | sequence items => cases items <;> first | rfl | cases leaf
  | mapping entries => cases entries <;> first | rfl | cases leaf
  | _ => simp only [afterKey, lines, scalar_eq]

/-- A value stands apart from its key. -/
theorem endsWord_afterKey (indent : Nat) (value : Content) (tail : List Char) :
    endsWord (afterKey indent value ++ tail).head? = true := by
  cases value with
  | sequence items => cases items <;> rfl
  | mapping entries => cases entries <;> rfl
  | _ => rfl

/-- The style of a key. -/
def keyStyle (key : String) : Style := style (isInlineKey key.toList) key.toList

/-- The text of a scalar starts with a token. -/
theorem startsToken_styled {cs : List Char} {style : Style} (suits : Suits cs style) (indent : Nat)
    (tail : List Char) : StartsToken (styled indent cs style ++ tail) := by
  cases style with
  | plain =>
    obtain ⟨nonempty, allowed⟩ := suits
    have plain := Flow.plainRest_of_allowsPlain nonempty allowed
    have solid := plain.startsSolid tail
    obtain ⟨c, rest, rfl⟩ := List.exists_cons_of_ne_nil nonempty
    rw [List.cons_append, startsSolid_cons] at solid
    -- A plain scalar starts neither like a comment nor with a byte order mark.
    have comment : c ≠ '#' := by simpa using plain.comment
    have order : c ≠ '\ufeff' := by
      rintro rfl
      cases (plain.printable _ List.mem_cons_self).1
    exact (startsToken_cons c _).mpr ⟨solid, comment, order⟩
  | singleQuoted => exact (startsToken_cons '\'' _).mpr (by decide)
  | doubleQuoted => exact (startsToken_cons '"' _).mpr (by decide)
  | literal => exact (startsToken_cons '|' _).mpr (by decide)

/-- Ending a line does not change how it starts. -/
theorem startsToken_endLine {cs : List Char} (starts : ∀ tail, StartsToken (cs ++ tail))
    (tail : List Char) : StartsToken (endLine cs ++ tail) := by
  unfold endLine
  split
  · exact starts tail
  · rw [List.append_assoc]
    exact starts _

/-- The text of a leaf starts with a token. -/
theorem Leaf.startsToken {leaf : Leaf} (suited : leaf.IsSuited) (indent : Nat) (tail : List Char) :
    StartsToken (leaf.text indent ++ tail) := by
  cases leaf with
  | word cs style => exact startsToken_styled suited indent tail
  | noItems => exact (startsToken_cons '[' _).mpr (by decide)
  | noEntries => exact (startsToken_cons '{' _).mpr (by decide)

/-- A sequence starts with a dash. -/
theorem sequenceLines_eq (column : Nat) (item : Content) (rest : List Content) :
    sequenceLines column (item :: rest) =
      '-' :: ' ' :: (lines (column + 2) item ++
        if rest.isEmpty then [] else blanks column ++ sequenceLines column rest) := by
  cases rest <;> simp [sequenceLines, afterIndicator_eq]

/-- A mapping starts with an entry. -/
theorem mappingLines_eq (column : Nat) (entry : String × Content) (rest : List (String × Content)) :
    mappingLines column (entry :: rest) =
      entryLines column entry ++
        if rest.isEmpty then [] else blanks column ++ mappingLines column rest := by
  cases rest <;> simp [mappingLines]

/-- An entry starts with its key, or with an indicator. -/
theorem startsToken_entryLines (column : Nat) (entry : String × Content) (tail : List Char) :
    StartsToken (entryLines column entry ++ tail) := by
  obtain ⟨key, value⟩ := entry
  rw [entryLines]
  split
  · rw [List.append_assoc]
    exact startsToken_styled (suits_style true key.toList) _ _
  · exact (startsToken_cons '?' _).mpr (by decide)

/-- The lines of a value start with a token. -/
theorem startsToken_lines (column : Nat) (value : Content) (tail : List Char) :
    StartsToken (lines column value ++ tail) := by
  -- A value without parts starts like its leaf, and a collection like its first part.
  have ofLeaf {value : Content} (leaf : value.IsLeaf) :
      StartsToken (lines column value ++ tail) := by
    rw [lines_leaf leaf]
    exact startsToken_endLine ((Leaf.startsToken (isSuited_ofContent value) column)) tail
  cases value with
  | sequence items =>
    cases items with
    | nil => exact ofLeaf trivial
    | cons item rest =>
      rw [lines, sequenceLines_eq]
      exact (startsToken_cons '-' _).mpr (by decide)
  | mapping entries =>
    cases entries with
    | nil => exact ofLeaf trivial
    | cons entry rest =>
      rw [lines, mappingLines_eq, List.append_assoc]
      exact startsToken_entryLines column entry _
  | _ => exact ofLeaf trivial

/-! ### Tokens of values -/

mutual

/-- The kinds of the tokens of a value. After a key a sequence is no block of its own. -/
def tokens (keyed : Bool) : Content → List Token.Kind
  | .sequence (item :: rest) =>
    if keyed then itemTokens (item :: rest)
    else .blockSequenceStart :: (itemTokens (item :: rest) ++ [.blockEnd])
  | .mapping (entry :: rest) =>
    .blockMappingStart :: (entryTokens (entry :: rest) ++ [.blockEnd])
  | value => (Leaf.ofContent value).tokens

/-- The kinds of the tokens of items. -/
def itemTokens : List Content → List Token.Kind
  | [] => []
  | item :: rest => .blockEntry :: (tokens false item ++ itemTokens rest)

/-- The kinds of the tokens of entries. -/
def entryTokens : List (String × Content) → List Token.Kind
  | [] => []
  | (key, value) :: rest =>
    .key :: .scalar key (keyStyle key).presentation :: .value ::
      (tokens (isInlineKey key.toList) value ++ entryTokens rest)

end

/-- The tokens of a value without parts are those of its leaf. -/
theorem tokens_leaf {value : Content} (leaf : value.IsLeaf) (keyed : Bool) :
    tokens keyed value = (Leaf.ofContent value).tokens := by
  cases value with
  | sequence items => cases items <;> first | rfl | cases leaf
  | mapping entries => cases entries <;> first | rfl | cases leaf
  | _ => rfl

/-- The lines of a value lead to its tokens, whether after an indicator or after a key. -/
structure Written (value : Content) : Prop where
  afterIndicator {i k : Nat} {rest : List Char} (outers : List Int) (kinds : List Token.Kind)
    (left : k ≤ i) (starts : StartsToken rest) :
    Leads (At (lines (i + 2) value ++ (blanks k ++ rest)) (i + 2) i outers true kinds)
      (Closed rest k i outers (kinds ++ tokens false value))
  afterKey {i k : Nat} {rest : List Char} (column : Nat) (outers : List Int)
    (kinds : List Token.Kind) (left : k ≤ i) (right : i < column) (starts : StartsToken rest) :
    ∃ before,
      Reaches (At (afterKey i value ++ (blanks k ++ rest)) column i outers false kinds) before ∧
        Leads before (Closed rest k i outers (kinds ++ tokens true value))

/-- Values without parts are read as they are written. -/
theorem written_leaf {value : Content} (leaf : value.IsLeaf) : Written value where
  afterIndicator _ _ left starts := by
    rw [lines_leaf leaf, tokens_leaf leaf]
    exact leads_leaf (isSuited_ofContent value) (by omega) left starts
  afterKey _ _ _ left right starts := by
    rw [afterKey_leaf leaf, lines_leaf leaf, tokens_leaf leaf]
    -- A value without parts stands behind the blank after its key.
    refine ⟨_, reaches_blank ?_ (by omega),
      leads_leaf (isSuited_ofContent value) (by omega) left starts⟩
    exact startsToken_endLine (Leaf.startsToken (isSuited_ofContent value) _) _

/-- A collection that is open is not opened again. -/
theorem opening_self (column : Nat) (kind : Token.Kind) : opening column column kind = [] := by
  simp [opening]

/-- A collection that is open is not around itself. -/
theorem around_self (column : Nat) (outers : List Int) : around column column outers = outers := by
  simp [around]

/-- The lines of items lead to their tokens. -/
theorem leads_items {i k : Nat} {tail : List Char} (left : k ≤ i) (starts : StartsToken tail) :
    ∀ (item : Content) (rest : List Content), (∀ part ∈ item :: rest, Written part) →
      ∀ (indent : Int) (outers : List Int) (kinds : List Token.Kind), indent ≤ i →
        Leads (At (sequenceLines i (item :: rest) ++ (blanks k ++ tail)) i indent outers true kinds)
          (Closed tail k i (around indent i outers)
            (kinds ++ (opening indent i .blockSequenceStart ++ itemTokens (item :: rest)))) := by
  intro item rest
  induction rest generalizing item with
  | nil =>
    intro written indent outers kinds inside
    -- The dash opens the sequence if it is not open yet.
    have dash := leads_dash outers kinds
      (startsToken_lines (i + 2) item (blanks k ++ tail)) inside
    have last := (written item List.mem_cons_self).afterIndicator (around indent i outers)
      (kinds ++ (opening indent i .blockSequenceStart ++ [.blockEntry])) left starts
    simpa [sequenceLines_eq, itemTokens] using dash.trans last
  | cons next rest ih =>
    intro written indent outers kinds inside
    obtain ⟨itemWritten, others⟩ := List.forall_mem_cons.mp written
    have nextStarts : StartsToken (sequenceLines i (next :: rest) ++ (blanks k ++ tail)) :=
      startsToken_lines i (.sequence (next :: rest)) _
    have dash := leads_dash outers kinds (startsToken_lines (i + 2) item
      (blanks i ++ (sequenceLines i (next :: rest) ++ (blanks k ++ tail)))) inside
    have first := itemWritten.afterIndicator (around indent i outers)
      (kinds ++ (opening indent i .blockSequenceStart ++ [.blockEntry])) (Nat.le_refl i)
      nextStarts
    -- The dash of the next item stands at the column of the sequence, which is open by then.
    rw [closed_of_le le_rfl] at first
    have later := ih next others i (around indent i outers) (kinds ++
      (opening indent i .blockSequenceStart ++ [.blockEntry]) ++ tokens false item) le_rfl
    rw [around_self, opening_self, List.nil_append] at later
    rw [sequenceLines_eq i item]
    simpa [itemTokens] using (dash.trans first).trans later

/-- A key on the line of its value leads to the tokens of the entry. -/
theorem leads_inlineEntry {key : String} {value : Content} {i k : Nat} {indent : Int}
    {tail : List Char} (outers : List Int) (kinds : List Token.Kind) (written : Written value)
    (inline : isInlineKey key.toList = true) (inside : indent ≤ i) (left : k ≤ i)
    (starts : StartsToken tail) :
    Leads (At (styled (i + 2) key.toList (style true key.toList) ++
        ':' :: (afterKey i value ++ (blanks k ++ tail))) i indent outers true kinds)
      (Closed tail k i (around indent i outers)
        (kinds ++ (opening indent i .blockMappingStart ++
          [.key, .scalar key (style true key.toList).presentation, .value] ++
            tokens true value))) := by
  have line := style_ne_literal key.toList
  have unbroken : ∀ c ∈ key.toList, isBreak c = false := by
    simp only [isInlineKey, Bool.and_eq_true, Bool.not_eq_true', List.any_eq_false] at inline
    exact fun c member => by simpa using inline.1 c member
  -- The key is short enough to be a key when the colon is reached.
  have short := length_styled (i + 2) inline line
  have apart := endsWord_afterKey i value (blanks k ++ tail)
  obtain ⟨before, reaches, leads⟩ := written.afterKey
    (i + (styled (i + 2) key.toList (style true key.toList)).length + 1) (around indent i outers)
    (kinds ++ (opening indent i .blockMappingStart ++
      [.key, .scalar key (style true key.toList).presentation, .value])) left (by omega) starts
  have first := leads_key (n := i + 1) (suits_style true key.toList) line unbroken short apart
    inside (by simpa using reaches)
  simpa using first.trans leads

/-- A key that stands alone leads to the tokens of the entry. -/
theorem leads_loneEntry (key : String) {value : Content} {i k : Nat} {indent : Int}
    {tail : List Char} (outers : List Int) (kinds : List Token.Kind) (written : Written value)
    (inside : indent ≤ i) (left : k ≤ i) (starts : StartsToken tail) :
    Leads (At ('?' :: ' ' :: (endLine (string (i + 2) key) ++ (blanks i ++
        ':' :: ' ' :: (lines (i + 2) value ++ (blanks k ++ tail))))) i indent outers true kinds)
      (Closed tail k i (around indent i outers)
        (kinds ++ (opening indent i .blockMappingStart ++
          [.key, .scalar key (style false key.toList).presentation, .value] ++
            tokens false value))) := by
  have colon : StartsToken (':' :: ' ' :: (lines (i + 2) value ++ (blanks k ++ tail))) :=
    (startsToken_cons ':' _).mpr (by decide)
  have suits := suits_style false key.toList
  -- The steps are the question mark, the key, the colon and the value.
  have question := leads_question outers kinds
    (startsToken_endLine (startsToken_styled suits (i + 2)) (blanks i ++
      ':' :: ' ' :: (lines (i + 2) value ++ (blanks k ++ tail)))) inside
  have word := leads_word (around indent i outers) true
    (kinds ++ (opening indent i .blockMappingStart ++ [.key])) suits
    (show i < i + 2 by omega) (Nat.le_refl i) colon
  rw [closed_of_le le_rfl] at word
  have value' := leads_colon i (around indent i outers)
    (kinds ++ (opening indent i .blockMappingStart ++ [.key]) ++
      [.scalar key (style false key.toList).presentation])
    (startsToken_lines (i + 2) value (blanks k ++ tail))
  have last := written.afterIndicator (around indent i outers)
    (kinds ++ (opening indent i .blockMappingStart ++ [.key]) ++
      [.scalar key (style false key.toList).presentation] ++ [.value]) left starts
  rw [String.ofList_toList] at word
  simpa [string] using ((question.trans word).trans value').trans last

/-- The lines of an entry lead to its tokens. -/
theorem leads_entry (key : String) {value : Content} {i k : Nat} {indent : Int}
    {tail : List Char} (outers : List Int) (kinds : List Token.Kind) (written : Written value)
    (inside : indent ≤ i) (left : k ≤ i) (starts : StartsToken tail) :
    Leads (At (entryLines i (key, value) ++ (blanks k ++ tail)) i indent outers true kinds)
      (Closed tail k i (around indent i outers)
        (kinds ++ (opening indent i .blockMappingStart ++ entryTokens [(key, value)]))) := by
  rw [entryLines]
  split
  -- A key is written with its colon behind it, or behind a question mark on lines of its own.
  · next inline =>
    have leads := leads_inlineEntry outers kinds written inline inside left starts
    simpa [entryTokens, keyStyle, inline] using leads
  · next lone =>
    have leads := leads_loneEntry key outers kinds written inside left starts
    rw [Bool.not_eq_true] at lone
    simpa [entryTokens, keyStyle, lone, afterIndicator_eq] using leads

/-- The lines of entries lead to their tokens. -/
theorem leads_entries {i k : Nat} {tail : List Char} (left : k ≤ i) (starts : StartsToken tail) :
    ∀ (entry : String × Content) (rest : List (String × Content)),
      (∀ part ∈ entry :: rest, Written part.2) →
      ∀ (indent : Int) (outers : List Int) (kinds : List Token.Kind), indent ≤ i →
        Leads (At (mappingLines i (entry :: rest) ++ (blanks k ++ tail)) i indent outers true kinds)
          (Closed tail k i (around indent i outers)
            (kinds ++ (opening indent i .blockMappingStart ++ entryTokens (entry :: rest)))) := by
  intro entry rest
  induction rest generalizing entry with
  | nil =>
    intro written indent outers kinds inside
    have last := leads_entry entry.1 outers kinds
      (written entry List.mem_cons_self) inside left starts
    simpa [mappingLines_eq] using last
  | cons next rest ih =>
    intro written indent outers kinds inside
    obtain ⟨entryWritten, others⟩ := List.forall_mem_cons.mp written
    have nextStarts : StartsToken (mappingLines i (next :: rest) ++ (blanks k ++ tail)) :=
      startsToken_lines i (.mapping (next :: rest)) _
    -- Behind the first entry the others are read as a mapping that is open.
    have first := leads_entry entry.1 outers kinds entryWritten inside
      (Nat.le_refl i) nextStarts
    -- The next entry stands at the column of the mapping, which is open by then.
    rw [closed_of_le le_rfl] at first
    have later := ih next others i (around indent i outers) (kinds ++
      (opening indent i .blockMappingStart ++ entryTokens [entry])) le_rfl
    rw [around_self, opening_self, List.nil_append] at later
    rw [mappingLines_eq i entry]
    simpa [entryTokens] using first.trans later

/-- A collection that was opened around another one is closed before it. -/
theorem closed_inner {i k : Nat} {outers : List Int} {tail : List Char} {kinds : List Token.Kind}
    (left : k ≤ i) : Closed tail k (i + 2 : Nat) (around i (i + 2) outers) kinds =
      Closed tail k i outers (kinds ++ [.blockEnd]) := by
  rw [around, if_pos (by omega), closed_of_lt (by omega)]

/-- The first indicator opens a collection that is further right. -/
theorem opening_inner (i : Nat) (kind : Token.Kind) : opening i (i + 2) kind = [kind] := by
  rw [opening, if_pos (by omega)]

/-- A sequence is read as it is written. -/
theorem written_sequence {item : Content} {rest : List Content}
    (written : ∀ part ∈ item :: rest, Written part) : Written (.sequence (item :: rest)) where
  afterIndicator {i k tail} outers kinds left starts := by
    -- Behind an indicator the sequence is further right, and it is opened by its first dash.
    have leads := leads_items (i := i + 2) (k := k) (by omega) starts item rest written i outers
      kinds (by omega)
    rw [closed_inner left, opening_inner] at leads
    simpa [lines, tokens] using leads
  afterKey {i k tail} column outers kinds left right starts := by
    -- After a key the sequence stands in the column of the mapping, and is not opened by itself.
    have leads := leads_items left starts item rest written i outers kinds le_rfl
    rw [around_self, opening_self, List.nil_append] at leads
    refine ⟨_, ?_, leads⟩
    have reaches : Reaches
        (At ('\n' :: (blanks i ++ (sequenceLines i (item :: rest) ++ (blanks k ++ tail)))) column i
          outers false kinds)
        (At (sequenceLines i (item :: rest) ++ (blanks k ++ tail)) i i outers true kinds) :=
      reaches_break (startsToken_lines i (.sequence (item :: rest)) (blanks k ++ tail)) le_rfl
    simpa [afterKey] using reaches

/-- A mapping is read as it is written. -/
theorem written_mapping {entry : String × Content} {rest : List (String × Content)}
    (written : ∀ part ∈ entry :: rest, Written part.2) : Written (.mapping (entry :: rest)) where
  afterIndicator {i k tail} outers kinds left starts := by
    have leads := leads_entries (i := i + 2) (k := k) (by omega) starts entry rest written i outers
      kinds (by omega)
    rw [closed_inner left, opening_inner] at leads
    simpa [lines, tokens] using leads
  afterKey {i k tail} column outers kinds left right starts := by
    have leads := leads_entries (i := i + 2) (k := k) (by omega) starts entry rest written i outers
      kinds (by omega)
    rw [closed_inner left, opening_inner] at leads
    -- After a key the mapping starts on the next line, further right than the key.
    refine ⟨_, ?_, by simpa [tokens] using leads⟩
    have reaches : Reaches
        (At ('\n' ::
            (blanks (i + 2) ++ (mappingLines (i + 2) (entry :: rest) ++ (blanks k ++ tail))))
          column i outers false kinds)
        (At (mappingLines (i + 2) (entry :: rest) ++ (blanks k ++ tail)) (i + 2) i outers true
          kinds) :=
      reaches_break (startsToken_lines (i + 2) (.mapping (entry :: rest)) (blanks k ++ tail))
        (by omega)
    simpa [afterKey] using reaches

/-- Every value is read as it is written. -/
theorem written (value : Content) : Written value :=
  -- The induction is on the value, with one lemma for each kind of it.
  value.inductionOn (fun _ leaf => written_leaf leaf) (fun _ _ parts => written_sequence parts)
    fun _ _ parts => written_mapping parts

end ToolPolicy.Yaml
