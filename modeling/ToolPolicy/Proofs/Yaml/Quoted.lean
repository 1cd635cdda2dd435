import Mathlib.Algebra.Ring.Nat
import ToolPolicy.Proofs.Yaml.Plain

/-! Quoted scalars read back as the texts that were written between quotes. -/

namespace ToolPolicy.Yaml

open ToolPolicy.Yaml.Flow

/-! ### Escape sequences -/

/-- An upper-case digit has its value. -/
theorem hexDigit?_digitChar {n : Nat} (small : n < 16) :
    hexDigit? (Nat.digitChar n).toUpper = some n := by
  -- Sixteen cases, each of which is run.
  rcases n with _ | _ | _ | _ | _ | _ | _ | _ | _ | _ | _ | _ | _ | _ | _ | _ | n
  all_goals first | rfl | omega

/-- The digits of a code are as many as it was asked for. -/
theorem length_hexDigits (width n : Nat) : (hexDigits width n).length = width := by
  induction width generalizing n with
  | zero => rfl
  | succ width ih => simp [hexDigits, ih]

/-- The digits of a code that fits read back as the code. -/
theorem hex?_hexDigits {width n : Nat} (fits : n < 16 ^ width) :
    hex? (hexDigits width n) = some n := by
  -- The last digit is the remainder, and those before it write the quotient.
  induction width generalizing n with
  | zero =>
    have zero : n = 0 := by simpa using fits
    rw [zero]
    rfl
  | succ width ih =>
    have shorter : hex? (hexDigits width (n / 16)) = some (n / 16) :=
      ih (by rw [Nat.pow_succ] at fits; omega)
    unfold hex? at shorter ⊢
    rw [hexDigits, List.foldl_append, shorter, List.foldl_cons, List.foldl_nil,
      hexDigit?_digitChar (Nat.mod_lt _ (by decide))]
    simp only [Option.pure_def, Option.bind_eq_bind, Option.bind_some]
    congr 1
    omega

/-- The codes of characters leave out the surrogates. -/
theorem toNat_range (c : Char) : c.toNat < 0xd800 ∨ 0xdfff < c.toNat ∧ c.toNat < 0x110000 :=
  c.valid

/-- A code of a character that has enough digits reads back as the character. -/
theorem readEscape_code {c letter : Char} {width : Nat} (length : codeLength? letter = some width)
    (code : escaped? letter = none) (fits : c.toNat < 16 ^ width) (rest : List Char)
    (since m : Mark) :
    readEscape since ⟨'\\' :: letter :: hexDigits width c.toNat ++ rest, m⟩ =
      .ok (c, ⟨rest, m.advance ('\\' :: letter :: hexDigits width c.toNat).length⟩) := by
  have taken : (hexDigits width c.toNat ++ rest).take width = hexDigits width c.toNat :=
    List.take_left' (length_hexDigits _ _)
  -- The code is that of a character, so that it is not turned down.
  have valid : ¬((0xd800 ≤ c.toNat ∧ c.toNat ≤ 0xdfff) ∨ 0x10ffff < c.toNat) := by
    have range := toNat_range c
    omega
  have after := Cursor.skip_append (hexDigits width c.toNat) rest (m.advance 2)
  rw [length_hexDigits] at after
  simp only [readEscape, List.cons_append, Cursor.peekAt_one_cons, List.head?_cons, code, length,
    Cursor.skip_cons, Cursor.skip_zero, Mark.advance_advance, taken, length_hexDigits, if_true,
    hex?_hexDigits fits, if_neg valid, Char.ofNat_toNat, after, List.length_cons]
  rw [Nat.add_comm]

/-- An escape sequence reads back as its character. -/
theorem readEscape_escapeSequence (c : Char) (rest : List Char) (since m : Mark) :
    readEscape since ⟨escapeSequence c ++ rest, m⟩ =
      .ok (c, ⟨rest, m.advance (escapeSequence c).length⟩) := by
  have named {n : Nat} (code : c.toNat = n) : c = Char.ofNat n := by
    rw [← code, Char.ofNat_toNat]
  unfold escapeSequence
  dsimp only
  split
  -- Fifteen characters have an escape of their own, and all others are written by their code.
  case h_1 code | h_2 code | h_3 code | h_4 code | h_5 code | h_6 code | h_7 code | h_8 code |
      h_9 code | h_10 code | h_11 code | h_12 code | h_13 code | h_14 code | h_15 code =>
    rw [named code]
    rfl
  case h_16 =>
    split
    · exact readEscape_code rfl rfl (by omega) rest since m
    · split
      · exact readEscape_code rfl rfl (by omega) rest since m
      · have range := toNat_range c
        exact readEscape_code rfl rfl (by omega) rest since m

/-! ### Words -/

/-- The character at both ends of a quoted scalar. -/
def quoteMark (single : Bool) : Char := if single then '\'' else '"'

/-- A character between quotes. -/
def quotedChar (single : Bool) (c : Char) : List Char :=
  if single then if c == '\'' then ['\'', '\''] else [c] else escapeDouble c

/-- A word between quotes. -/
def quotedWord (single : Bool) (word : List Char) : List Char := word.flatMap (quotedChar single)

/-- The characters of words between quotes. Between double quotes line breaks are escaped. -/
def IsQuotable (single : Bool) (c : Char) : Prop := if single then IsSolid c else c ≠ ' '

/-- An escape sequence is no line break after a backslash. -/
theorem exists_escapeSequence (c : Char) :
    ∃ letter code, escapeSequence c = '\\' :: letter :: code ∧ isBreak letter = false := by
  unfold escapeSequence
  dsimp only
  -- The letter after the backslash is never a line break itself.
  split
  case h_16 =>
    split
    · exact ⟨_, _, rfl, rfl⟩
    · split <;> exact ⟨_, _, rfl, rfl⟩
  all_goals exact ⟨_, _, rfl, rfl⟩

/-- A character of a word is read as itself. -/
theorem readWord_char {single : Bool} {c head : Char} (quotable : IsQuotable single c)
    (since m : Mark) (fuel text rest : List Char) :
    readWord single since (head :: fuel) text ⟨quotedChar single c ++ rest, m⟩ =
      readWord single since fuel (c :: text) ⟨rest, m.advance (quotedChar single c).length⟩ := by
  unfold quotedChar IsQuotable at *
  cases single with
  | true =>
    obtain ⟨blank, break_⟩ := quotable
    rw [if_pos rfl]
    split
    -- The quote itself is written twice.
    case isTrue quote =>
      rw [beq_iff_eq] at quote
      subst quote
      rfl
    case isFalse quote =>
      rw [readWord]
      simp [blank, break_, quote]
  | false =>
    rw [if_neg (by decide)] at quotable ⊢
    unfold escapeDouble
    split
    case isTrue =>
      -- A backslash is neither a blank nor a line break, so that the escape is looked at.
      obtain ⟨letter, code, shape, joined⟩ := exists_escapeSequence c
      have read := readEscape_escapeSequence c rest since m
      rw [shape] at read ⊢
      have solid : isBlank '\\' = false ∧ isBreak '\\' = false := by decide
      rw [readWord]
      simp only [List.cons_append] at read ⊢
      simp [solid, joined, read]
    case isFalse plain =>
      simp only [Bool.or_eq_true, Bool.not_eq_true', not_or, Bool.not_eq_false,
        Bool.not_eq_true] at plain
      obtain ⟨⟨⟨printable, break_⟩, quote⟩, backslash⟩ := plain
      have blank := isBlank_eq_of_isPrintable printable
      rw [beq_eq_false_iff_ne.mpr quotable] at blank
      rw [readWord]
      simp [blank, break_, quote, backslash]

/-- What ends a word between quotes: a blank, the end of a line, or the closing quote. -/
def EndsQuoted (single : Bool) (rest : List Char) : Prop :=
  ∃ c more, rest = c :: more ∧ (isBlank c = true ∨ isBreak c = true ∨
    c = quoteMark single ∧ more.head? ≠ some '\'')

/-- A word stops where it ends. -/
theorem readWord_stop {single : Bool} {rest : List Char} (ends : EndsQuoted single rest)
    (since m : Mark) (fuel text : List Char) :
    readWord single since fuel text ⟨rest, m⟩ = .ok (.stopped, text, ⟨rest, m⟩) := by
  obtain ⟨c, more, rfl, stop⟩ := ends
  cases fuel with
  | nil => rfl
  | cons _ fuel =>
    rw [readWord]
    -- A word ends at a blank, at a break and at the quote that closes the text.
    rcases stop with blank | break_ | ⟨rfl, next⟩
    · simp [blank]
    · simp [break_]
    · have solid : isBlank '\'' = false ∧ isBreak '\'' = false := by decide
      have solid' : isBlank '"' = false ∧ isBreak '"' = false := by decide
      cases single <;> simp [quoteMark, solid, solid', next]

/-- The characters of a word are read together. -/
theorem readWord_append (since m : Mark) (fuel text : List Char) {single : Bool}
    {word rest : List Char} (quotable : ∀ c ∈ word, IsQuotable single c)
    (ends : EndsQuoted single rest) (enough : word.length ≤ fuel.length) :
    readWord single since fuel text ⟨quotedWord single word ++ rest, m⟩ =
      .ok (.stopped, word.reverse ++ text,
        ⟨rest, m.advance (quotedWord single word).length⟩) := by
  -- The text that was read so far grows along the word, and so does the place.
  induction word generalizing fuel text m with
  | nil => exact readWord_stop ends since m fuel text
  | cons c word ih =>
    obtain ⟨first, others⟩ := List.forall_mem_cons.mp quotable
    cases fuel with
    | nil => cases enough
    | cons _ fuel =>
      rw [quotedWord, List.flatMap_cons, List.append_assoc, readWord_char first]
      change readWord single since _ _ ⟨quotedWord single word ++ rest, _⟩ = _
      rw [ih _ _ _ others (by simpa using enough)]
      simp [quotedWord]

/-! ### Scalars -/

/-- How a text is set out between quotes: words with blanks between them, or with line breaks that
are followed by indentation. -/
inductive QuotedText (single : Bool) : List Char → List Char → Prop where
  | word (word : List Char) (quotable : ∀ c ∈ word, IsQuotable single c) :
      QuotedText single word (quotedWord single word)
  | spaced (word rest encoded : List Char) (n : Nat) (quotable : ∀ c ∈ word, IsQuotable single c)
      (solid : StartsSolid encoded) (more : QuotedText single rest encoded) :
      QuotedText single (word ++ (blanks (n + 1) ++ rest))
        (quotedWord single word ++ (blanks (n + 1) ++ encoded))
  | broken (word breaks rest encoded : List Char) (b : Char) (n : Nat)
      (quotable : ∀ c ∈ word, IsQuotable single c)
      (printable : ∀ c ∈ b :: breaks, isBreak c = true ∧ isPrintable c = true) (feed : b ≠ '\n')
      (solid : StartsSolid encoded) (more : QuotedText single rest encoded) :
      QuotedText single (word ++ (b :: breaks ++ rest))
        (quotedWord single word ++ (b :: breaks ++ (blanks (n + 1) ++ encoded)))

/-- Every character takes at least one character between quotes. -/
theorem length_le_quoted {single : Bool} (word rest : List Char) :
    word.length ≤ (quotedWord single word ++ rest).length := by
  induction word with
  | nil => exact Nat.zero_le _
  | cons c word ih =>
    -- However a character is written, it takes one character at least.
    have some : 1 ≤ (quotedChar single c).length := by
      unfold quotedChar escapeDouble
      obtain ⟨letter, code, shape, -⟩ := exists_escapeSequence c
      split <;> split <;> simp [shape]
    simp only [quotedWord, List.flatMap_cons, List.length_append, List.length_cons] at ih ⊢
    omega

/-- The closing quote ends the scalar after a word. -/
theorem readQuotedBody_close {single : Bool} {word tail : List Char} {m : Mark}
    (quotable : ∀ c ∈ word, IsQuotable single c) (follows : tail.head? ≠ some '\'')
    (inside : m.column ≠ 0) (since : Mark) (text fuel : List Char) (head : Char) :
    readQuotedBody single since (head :: fuel) text
        ⟨quotedWord single word ++ quoteMark single :: tail, m⟩ =
      .ok (text.reverse ++ word,
        ⟨tail, m.advance ((quotedWord single word).length + 1)⟩) := by
  have read := readWord_append since m (quotedWord single word ++ quoteMark single :: tail) text
    quotable ⟨quoteMark single, tail, rfl, .inr (.inr ⟨rfl, follows⟩)⟩ (length_le_quoted word _)
  have closes : (if single = true then '\'' else '"') = quoteMark single := rfl
  rw [readQuotedBody, Cursor.isAtAnyMarker_of_column inside]
  simp [read, closes, Cursor.isAt]

/-- A gap after a word leads to the next word. -/
theorem readQuotedBody_gap {single : Bool} {word rest : List Char} {m : Mark} {gap : Gap}
    {c : Cursor} (quotable : ∀ c ∈ word, IsQuotable single c)
    (blank : ∃ b ∈ rest.head?, isBlank b = true ∨ isBreak b = true)
    (gapped : skipGap (fun _ _ => false) rest Gap.none
      ⟨rest, m.advance (quotedWord single word).length⟩ = .ok (gap, c))
    (inside : m.column ≠ 0) (since : Mark) (text fuel : List Char) (head : Char) :
    readQuotedBody single since (head :: fuel) text
        ⟨quotedWord single word ++ rest, m⟩ =
      readQuotedBody single since fuel (gap.text.reverse ++ (word.reverse ++ text)) c := by
  obtain ⟨b, member, blank⟩ := blank
  obtain ⟨more, rfl⟩ : ∃ more, rest = b :: more := by
    cases rest with
    | nil => cases member
    | cons d more =>
      cases member
      exact ⟨more, rfl⟩
  have read := readWord_append since m (quotedWord single word ++ b :: more) text quotable
    ⟨b, more, rfl, blank.imp_right .inl⟩ (length_le_quoted word _)
  -- What ends the word is not the closing quote.
  have open_ : (b == if single = true then '\'' else '"') = false := by
    rw [beq_eq_false_iff_ne]
    rintro rfl
    cases single <;> rcases blank with blank | blank <;> cases blank
  -- Inside of a line no document marker can stand.
  rw [readQuotedBody, Cursor.isAtAnyMarker_of_column inside]
  rw [Gap.none] at gapped
  simp [read, Cursor.isAt, open_, gapped]

/-- The closing quote is solid as well. -/
theorem startsSolid_closed (single : Bool) {encoded : List Char} (solid : StartsSolid encoded)
    (tail : List Char) : StartsSolid (encoded ++ quoteMark single :: tail) := by
  cases encoded with
  | nil => cases single <;> simp [quoteMark] <;> decide
  | cons c encoded => exact solid

/-- A text between quotes is read up to the closing quote. -/
theorem QuotedText.readQuotedBody_eq {single : Bool} {cs encoded : List Char}
    (quoted : QuotedText single cs encoded) {tail : List Char} (follows : tail.head? ≠ some '\'')
    (since m : Mark) (fuel text : List Char) (inside : m.column ≠ 0)
    (enough : encoded.length < fuel.length) :
    ∃ after : Mark, readQuotedBody single since fuel text
        ⟨encoded ++ quoteMark single :: tail, m⟩ = .ok (text.reverse ++ cs, ⟨tail, after⟩) ∧
      m.line ≤ after.line ∧
      ((∀ c ∈ encoded, isBreak c = false) → after = m.advance (encoded.length + 1)) := by
  -- Each word with the gap after it takes one round, which leaves a shorter text to be read.
  induction quoted generalizing m fuel text with
  | word word quotable =>
    obtain ⟨head, fuel, rfl⟩ := List.exists_cons_of_length_pos (Nat.zero_lt_of_lt enough)
    exact ⟨_, readQuotedBody_close quotable follows inside since text fuel head, by simp,
      fun _ => rfl⟩
  | spaced word rest encoded n quotable solid more ih =>
    obtain ⟨head, fuel, rfl⟩ := List.exists_cons_of_length_pos (Nat.zero_lt_of_lt enough)
    have gapped := skipGap_blanks (fun _ _ => false)
      (blanks (n + 1) ++ (encoded ++ quoteMark single :: tail)) Gap.none
      (m.advance (quotedWord single word).length) (n := n + 1) (by simp)
      (startsSolid_closed single solid tail)
    obtain ⟨after, read, later, exact_⟩ := ih
      ((m.advance (quotedWord single word).length).advance (n + 1)) fuel
      ((blanks (n + 1)).reverse ++ (word.reverse ++ text)) (by simp) (by simp at enough; omega)
    refine ⟨after, ?_, by simpa using later, ?_⟩
    · rw [List.append_assoc, List.append_assoc,
        readQuotedBody_gap quotable ⟨' ', rfl, .inl rfl⟩ gapped inside]
      simpa [Gap.text, Gap.none] using read
    · intro unbroken
      rw [exact_ fun c member => unbroken c (by simp [member])]
      simp only [Mark.advance_advance, List.length_append, length_blanks]
      congr 1
      omega
  | broken word breaks rest encoded b n quotable printable feed solid more ih =>
    -- A gap with line breaks leads to another line, about whose columns nothing is claimed.
    obtain ⟨head, fuel, rfl⟩ := List.exists_cons_of_length_pos (Nat.zero_lt_of_lt enough)
    obtain ⟨start, column, line, gapped⟩ := skipGap_break (fun _ _ => false)
      (b :: breaks ++ (blanks (n + 1) ++ (encoded ++ quoteMark single :: tail)))
      (m.advance (quotedWord single word).length) (n := n + 1)
      (by simp only [List.length_cons, List.length_append, length_blanks]; omega)
      (startsSolid_closed single solid tail) printable
    have first := (printable b List.mem_cons_self).1
    obtain ⟨after, read, later, -⟩ := ih start fuel
      ((b :: breaks).reverse ++ (word.reverse ++ text)) (by omega) (by simp at enough; omega)
    refine ⟨after, ?_, by simp at line; omega, ?_⟩
    · rw [List.append_assoc, List.append_assoc, List.append_assoc,
        readQuotedBody_gap quotable ⟨b, rfl, .inr first⟩ gapped inside]
      simpa [Gap.text, feed] using read
    · intro unbroken
      rw [unbroken b (by simp)] at first
      cases first

/-- A quoted scalar reads back as its text, which is one that was quoted. -/
theorem QuotedText.readQuoted_eq {single : Bool} {cs encoded : List Char}
    (quoted : QuotedText single cs encoded) {tail : List Char} (follows : tail.head? ≠ some '\'')
    (m : Mark) :
    ∃ token after, readQuoted single
        ⟨quoteMark single :: (encoded ++ quoteMark single :: tail), m⟩ =
          .ok (token, ⟨tail, after⟩) ∧
      token.kind = .scalar (String.ofList cs) .quoted ∧ m.line ≤ after.line ∧
      ((∀ c ∈ encoded, isBreak c = false) → after = m.advance (encoded.length + 2)) := by
  obtain ⟨after, body, later, exact_⟩ := quoted.readQuotedBody_eq follows m (m.advance 1)
    (quoteMark single :: (encoded ++ quoteMark single :: tail)) [] (by simp)
    (by simp only [List.length_cons, List.length_append]; omega)
  refine ⟨⟨.scalar (String.ofList cs) .quoted, m, after⟩, after, ?_, rfl, later, ?_⟩
  · rw [readQuoted]
    simp [body, Except.map]
  · intro unbroken
    -- The two quotes are gone over besides what is between them.
    rw [exact_ unbroken, Mark.advance_advance]
    congr 1
    omega

/-! ### Double quotes -/

/-- A character between double quotes starts solid. -/
theorem startsSolid_escapeDouble {c : Char} (word : c ≠ ' ') (rest : List Char) :
    StartsSolid (escapeDouble c ++ rest) := by
  unfold escapeDouble
  split
  case isTrue =>
    -- An escape starts with a backslash.
    obtain ⟨letter, code, shape, -⟩ := exists_escapeSequence c
    rw [shape]
    exact (startsSolid_cons _ _).mpr (by decide)
  case isFalse plain =>
    simp only [Bool.or_eq_true, Bool.not_eq_true', not_or, Bool.not_eq_false,
      Bool.not_eq_true] at plain
    exact (startsSolid_cons _ _).mpr (isSolid_of_isPrintable plain.1.1.1 word plain.1.1.2)

/-- Blanks stand for themselves between double quotes. -/
theorem flatMap_escapeDouble_blanks (n : Nat) : (blanks n).flatMap escapeDouble = blanks n := by
  induction n with
  | zero => rfl
  | succ n ih =>
    rw [blanks_succ, List.flatMap_cons, ih]
    rfl

/-- Every text can be set out between double quotes. -/
theorem quotedText_double (cs : List Char) : QuotedText false cs (cs.flatMap escapeDouble) := by
  -- A word and the blanks after it are taken off, and what is left is shorter.
  induction size : cs.length using Nat.strongRecOn generalizing cs with
  | _ n ih =>
    subst size
    obtain ⟨word, more, rfl, unspaced, stop⟩ := exists_word cs
    obtain ⟨count, rest, rfl, next⟩ := exists_blanks more
    cases count with
    | zero =>
      -- A word that no blank follows is the last one.
      have none : rest = [] := by
        cases rest with
        | nil => rfl
        | cons c rest => exact absurd (congrArg some (stop c rfl)) next
      subst none
      have quoted : QuotedText false word (quotedWord false word) := .word word unspaced
      rw [blanks_zero, List.append_nil, List.append_nil]
      exact quoted
    | succ count =>
      have shorter : rest.length < (word ++ (blanks (count + 1) ++ rest)).length := by
        simp
        omega
      have solid : StartsSolid (rest.flatMap escapeDouble) := by
        cases rest with
        | nil => exact startsSolid_nil
        | cons c rest => exact startsSolid_escapeDouble (by simpa using next) _
      have quoted : QuotedText false _ _ := .spaced word rest _ count unspaced solid
        (ih rest.length shorter rest rfl)
      rw [List.flatMap_append, List.flatMap_append, flatMap_escapeDouble_blanks]
      exact quoted

/-- No digit of a code ends a line. -/
theorem isBreak_of_mem_hexDigits {width n : Nat} {d : Char} (member : d ∈ hexDigits width n) :
    isBreak d = false := by
  induction width generalizing n with
  | zero => cases member
  | succ width ih =>
    rw [hexDigits, List.mem_append, List.mem_singleton] at member
    rcases member with earlier | rfl
    · exact ih earlier
    · have small := Nat.mod_lt n (show 0 < 16 by decide)
      -- The digit is looked at for each remainder.
      generalize n % 16 = k at *
      rcases k with _ | _ | _ | _ | _ | _ | _ | _ | _ | _ | _ | _ | _ | _ | _ | _ | k
      all_goals rfl

/-- No character of an escape sequence ends a line. -/
theorem isBreak_of_mem_escapeSequence {c d : Char} (member : d ∈ escapeSequence c) :
    isBreak d = false := by
  -- A code is a backslash, a letter and digits.
  have code {width : Nat} {letter : Char} (word : isBreak letter = false)
      (member : d ∈ '\\' :: letter :: hexDigits width c.toNat) : isBreak d = false := by
    simp only [List.mem_cons] at member
    rcases member with rfl | rfl | digit
    · rfl
    · exact word
    · exact isBreak_of_mem_hexDigits digit
  revert member
  unfold escapeSequence
  dsimp only
  split
  case h_16 =>
    split
    · exact code rfl
    · split <;> exact code rfl
  all_goals
    rw [List.mem_cons, List.mem_singleton]
    rintro (rfl | rfl) <;> rfl

/-- Between double quotes a text keeps to its line. -/
theorem isBreak_of_mem_escapeDouble {c d : Char} (member : d ∈ escapeDouble c) :
    isBreak d = false := by
  unfold escapeDouble at member
  split at member
  case isTrue => exact isBreak_of_mem_escapeSequence member
  case isFalse plain =>
    simp only [Bool.or_eq_true, not_or, Bool.not_eq_true] at plain
    rw [List.mem_singleton.mp member]
    exact plain.1.1.2

/-- Every text is read back from between double quotes, on one line. -/
theorem readQuoted_doubleQuoted (cs : List Char) {tail : List Char}
    (follows : tail.head? ≠ some '\'')
    (m : Mark) :
    ∃ token, readQuoted false ⟨doubleQuoted cs ++ tail, m⟩ =
        .ok (token, ⟨tail, m.advance (doubleQuoted cs).length⟩) ∧
      token.kind = .scalar (String.ofList cs) .quoted := by
  obtain ⟨token, after, read, kind, -, exact_⟩ := (quotedText_double cs).readQuoted_eq follows m
  -- All line breaks are written as escapes, so that the text stays on its line.
  have unbroken : ∀ d ∈ cs.flatMap escapeDouble, isBreak d = false := by
    intro d member
    obtain ⟨c, -, within⟩ := List.mem_flatMap.mp member
    exact isBreak_of_mem_escapeDouble within
  have text : doubleQuoted cs ++ tail =
      quoteMark false :: (cs.flatMap escapeDouble ++ quoteMark false :: tail) := by
    simp [doubleQuoted, quoteMark]
  have length : (doubleQuoted cs).length = (cs.flatMap escapeDouble).length + 2 := by
    simp only [doubleQuoted, List.length_append, List.length_cons, List.length_nil]
  rw [exact_ unbroken, ← text, ← length] at read
  exact ⟨token, read, kind⟩

/-! ### Single quotes -/

/-- Within a line the text between single quotes is that of its words. -/
theorem singleBody_append (indent : Nat) {word : List Char} (solid : ∀ c ∈ word, IsSolid c)
    (rest : List Char) :
    singleBody indent false (word ++ rest) =
      quotedWord true word ++ singleBody indent false rest := by
  induction word with
  | nil => rfl
  | cons c word ih =>
    obtain ⟨first, others⟩ := List.forall_mem_cons.mp solid
    rw [List.cons_append, singleBody, if_neg (by simp [first.2]), ih others]
    simp [quotedWord, quotedChar]

/-- Blanks stand for themselves between single quotes. -/
theorem singleBody_blanks (indent n : Nat) (rest : List Char) :
    singleBody indent false (blanks n ++ rest) = blanks n ++ singleBody indent false rest := by
  induction n with
  | zero => rfl
  | succ n ih =>
    rw [blanks_succ, List.cons_append, singleBody, ih]
    rfl

/-- Line breaks stand for themselves between single quotes, and indentation follows them. -/
theorem singleBody_breaks (indent : Nat) (broken : Bool) {breaks rest : List Char}
    (some : breaks ≠ [])
    (ends : ∀ c ∈ breaks, isBreak c = true) (stop : ∀ c ∈ rest.head?, isBreak c = false) :
    singleBody indent broken (breaks ++ rest) =
      breaks ++ (blanks indent ++ singleBody indent false rest) := by
  induction breaks generalizing broken with
  | nil => exact absurd rfl some
  | cons b breaks ih =>
    obtain ⟨first, others⟩ := List.forall_mem_cons.mp ends
    rw [List.cons_append, singleBody, if_pos first]
    -- The indentation comes with the first character after the last of the breaks.
    cases breaks with
    | nil =>
      cases rest with
      | nil => simp [singleBody]
      | cons c rest => simp [singleBody, stop c rfl]
    | cons b' breaks =>
      rw [ih true (by simp) others]
      rfl

/-- What stands before the end of a text can be left out of a check for blanks before breaks. -/
theorem hasBlankBeforeBreak_append {front rest : List Char}
    (none : hasBlankBeforeBreak (front ++ rest) = false) : hasBlankBeforeBreak rest = false := by
  induction front with
  | nil => exact none
  | cons a front ih =>
    apply ih
    cases shape : front ++ rest with
    | nil => rfl
    | cons b more =>
      rw [List.cons_append, shape, hasBlankBeforeBreak, Bool.or_eq_false_iff] at none
      exact none.2

/-- What stands before the end of a text can be left out of a check for blanks after breaks. -/
theorem hasBlankAfterBreak_append {front rest : List Char}
    (none : hasBlankAfterBreak (front ++ rest) = false) : hasBlankAfterBreak rest = false := by
  induction front with
  | nil => exact none
  | cons a front ih =>
    apply ih
    cases shape : front ++ rest with
    | nil => rfl
    | cons b more =>
      rw [List.cons_append, shape, hasBlankAfterBreak, Bool.or_eq_false_iff] at none
      exact none.2

/-- The text that is left to stand between single quotes. -/
structure SingleRest (cs : List Char) : Prop where
  printable : ∀ c ∈ cs, isPrintable c = true
  feed : '\n' ∉ cs
  before : hasBlankBeforeBreak cs = false
  after : hasBlankAfterBreak cs = false

namespace SingleRest

variable {front rest : List Char}

/-- What comes later may stand between single quotes as well. -/
theorem drop (single : SingleRest (front ++ rest)) : SingleRest rest :=
  ⟨fun c member => single.printable c (List.mem_append_right _ member),
    fun member => single.feed (List.mem_append_right _ member),
    hasBlankBeforeBreak_append single.before, hasBlankAfterBreak_append single.after⟩

/-- No line ends after a blank. -/
theorem unbroken (single : SingleRest (' ' :: rest)) : ∀ c ∈ rest.head?, isBreak c = false := by
  intro c member
  cases rest with
  | nil => cases member
  | cons d rest =>
    cases member
    have none := single.before
    rw [hasBlankBeforeBreak, Bool.or_eq_false_iff] at none
    simpa using none.1

/-- No blank comes after the end of a line. -/
theorem unspaced {b : Char} (single : SingleRest (b :: rest)) (ends : isBreak b = true) :
    rest.head? ≠ some ' ' := by
  intro space
  cases rest with
  | nil => cases space
  | cons d rest =>
    cases space
    have none := single.after
    rw [hasBlankAfterBreak, Bool.or_eq_false_iff, ends] at none
    cases none.1

end SingleRest

/-- A text that goes on with a word starts solid between single quotes. -/
theorem startsSolid_singleBody (indent : Nat) {rest : List Char}
    (solid : ∀ c ∈ rest.head?, IsSolid c) : StartsSolid (singleBody indent false rest) := by
  cases rest with
  | nil => simp [singleBody]
  | cons c rest =>
    obtain ⟨blank, break_⟩ := solid c rfl
    rw [singleBody, break_]
    -- A quote is written twice, and any other character as it is.
    by_cases quote : c = '\''
    · subst quote
      exact (startsSolid_cons _ _).mpr (by decide)
    · simpa [quote] using solid c rfl

/-- After the line breaks of a text that may stand between single quotes comes a word. -/
theorem SingleRest.solid_after {breaks rest : List Char} (single : SingleRest (breaks ++ rest))
    (filled : breaks ≠ []) (ends : ∀ c ∈ breaks, isBreak c = true)
    (inside : ∀ c ∈ rest.head?, isBreak c = false) : ∀ c ∈ rest.head?, IsSolid c := by
  have unspaced : rest.head? ≠ some ' ' := by
    have last := List.dropLast_concat_getLast filled
    rw [← last, List.append_assoc] at single
    exact single.drop.unspaced (ends _ (List.getLast_mem filled))
  exact fun c member =>
    isSolid_of_isPrintable (single.drop.printable c (List.mem_of_mem_head? member))
      (fun space => unspaced (space ▸ member)) (inside c member)

/-- After the blanks of a text that may stand between single quotes comes a word as well. -/
theorem SingleRest.solid_after_blanks {n : Nat} {rest : List Char}
    (single : SingleRest (blanks (n + 1) ++ rest)) (next : rest.head? ≠ some ' ') :
    ∀ c ∈ rest.head?, IsSolid c := by
  -- Only the last of the blanks stands before the word.
  have split : blanks (n + 1) ++ rest = blanks n ++ ' ' :: rest := by
    simp [blanks, List.replicate_succ']
  rw [split] at single
  have rested : SingleRest (' ' :: rest) := single.drop
  exact fun c member =>
    isSolid_of_isPrintable
      (rested.printable c (List.mem_cons_of_mem _ (List.mem_of_mem_head? member)))
      (fun space => next (space ▸ member)) (rested.unbroken c member)

/-- What may stand between single quotes is set out there. -/
theorem SingleRest.quotedText {cs : List Char} (single : SingleRest cs) (indent : Nat) :
    QuotedText true cs (singleBody (indent + 1) false cs) := by
  -- A word is taken off with the blanks or the breaks after it, and what is left is shorter.
  induction size : cs.length using Nat.strongRecOn generalizing cs with
  | _ n ih =>
    subst size
    obtain ⟨word, more, rfl, solid, stop⟩ := exists_prefix (fun c => decide (IsSolid c)) cs
    replace solid : ∀ c ∈ word, IsSolid c := fun c member => by simpa using solid c member
    obtain ⟨count, rest, rfl, next⟩ := exists_blanks more
    have later := single.drop
    rw [singleBody_append _ solid, singleBody_blanks]
    cases count with
    | succ count =>
      exact .spaced word rest _ count solid
        (startsSolid_singleBody _ (later.solid_after_blanks next))
        (ih rest.length (by simp; omega) later.drop rfl)
    | zero =>
      -- Without a blank behind it the word is followed by breaks, or by nothing.
      obtain ⟨breaks, rest, rfl, ends, inside⟩ := exists_prefix isBreak rest
      rw [blanks_zero, List.nil_append] at later
      cases breaks with
      | nil =>
        -- Nothing but a word is left.
        have none : rest = [] := by
          cases rest with
          | nil => rfl
          | cons c rest =>
            have solid : IsSolid c := isSolid_of_isPrintable (later.printable c List.mem_cons_self)
              (by simpa using next) (inside c rfl)
            simpa [solid] using stop c rfl
        subst none
        have quoted : QuotedText true word (quotedWord true word) := .word word solid
        simpa [singleBody] using quoted
      | cons b breaks =>
        have filled : b :: breaks ≠ [] := List.cons_ne_nil b breaks
        have printable : ∀ c ∈ b :: breaks, isBreak c = true ∧ isPrintable c = true :=
          fun c member => ⟨ends c member, later.printable c (List.mem_append_left _ member)⟩
        have other : b ≠ '\n' := fun feed => later.feed (by simp [feed])
        rw [blanks_zero, List.nil_append, List.nil_append,
          singleBody_breaks _ false filled ends inside]
        exact .broken word breaks rest _ b indent solid printable other
          (startsSolid_singleBody _ (later.solid_after filled ends inside))
          (ih rest.length (by simp; omega) later.drop rfl)

/-- A text that may stand between single quotes is read back from there. -/
theorem readQuoted_singleQuoted {cs : List Char} (allowed : allowsSingleQuoted cs = true)
    (feed : '\n' ∉ cs) (indent : Nat) {tail : List Char} (follows : tail.head? ≠ some '\'')
    (m : Mark) :
    ∃ token after, readQuoted true ⟨singleQuoted (indent + 1) cs ++ tail, m⟩ =
        .ok (token, ⟨tail, after⟩) ∧
      token.kind = .scalar (String.ofList cs) .quoted ∧ m.line ≤ after.line ∧
      ((∀ c ∈ cs, isBreak c = false) →
        after = m.advance (singleQuoted (indent + 1) cs).length) := by
  simp only [allowsSingleQuoted, Bool.and_eq_true, Bool.not_eq_true', List.all_eq_true] at allowed
  obtain ⟨⟨printable, before⟩, after⟩ := allowed
  -- What allows the style also lets the text be taken apart into words and gaps.
  have single : SingleRest cs := ⟨printable, feed, before, after⟩
  obtain ⟨token, after, read, kind, later, exact_⟩ :=
    (single.quotedText indent).readQuoted_eq follows m
  have text : singleQuoted (indent + 1) cs ++ tail =
      quoteMark true :: (singleBody (indent + 1) false cs ++ quoteMark true :: tail) := by
    simp [singleQuoted, quoteMark]
  have length : (singleQuoted (indent + 1) cs).length =
      (singleBody (indent + 1) false cs).length + 2 := by
    simp [singleQuoted]
  refine ⟨token, after, text ▸ read, kind, later, fun unbroken => ?_⟩
  rw [length]
  exact exact_ fun d => isBreak_of_mem_singleBody unbroken

end ToolPolicy.Yaml
