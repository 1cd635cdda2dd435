import ToolPolicy.Proofs.Yaml.Literal
import ToolPolicy.Proofs.Yaml.Number
import ToolPolicy.Proofs.Yaml.Plain

/-! What is written within a line or as a block: scalars in their styles, and empty collections. -/

namespace ToolPolicy.Yaml

/-! ### Styles -/

/-- How a style presents a scalar. -/
def Style.presentation : Style → Presentation
  | .plain => .plain
  | .singleQuoted | .doubleQuoted => .quoted
  | .literal => .block

/-- What a text must be like to take a style. -/
def Suits (cs : List Char) : Style → Prop
  | .plain => cs ≠ [] ∧ allowsPlain cs = true
  | .singleQuoted => allowsSingleQuoted cs = true ∧ '\n' ∉ cs
  | .doubleQuoted => True
  | .literal => allowsLiteral cs = true

/-- A text that asks for quotes or for none has one line. -/
theorem not_mem_of_wantedStyle {cs : List Char} (wanted : wantedStyle cs ≠ .literal) :
    '\n' ∉ cs := by
  intro member
  apply wanted
  rw [wantedStyle, if_pos (List.contains_iff_mem.mpr member)]

/-- A text that asks for no quotes reads back as a string. -/
theorem resolve_of_wantedStyle {cs : List Char} (wanted : wantedStyle cs = .plain) :
    resolve cs = .string := by
  unfold wantedStyle at wanted
  split at wanted
  · cases wanted
  · split at wanted
    · next plain =>
      simp only [Bool.and_eq_true, decide_eq_true_eq] at plain
      exact plain.1
    · cases wanted

/-- A text takes a style that suits it. -/
theorem suits_style (withinLine : Bool) (cs : List Char) : Suits cs (style withinLine cs) := by
  -- Single quotes are taken wherever the text allows them.
  have quotes (wanted : wantedStyle cs ≠ .literal) :
      Suits cs (if allowsSingleQuoted cs then .singleQuoted else .doubleQuoted) := by
    split
    · next allowed => exact ⟨allowed, not_mem_of_wantedStyle wanted⟩
    · trivial
  unfold style
  split
  · trivial
  -- A block is taken for several lines if the text allows it, and double quotes otherwise.
  · split
    · split
      · next allowed =>
        simp only [Bool.and_eq_true] at allowed
        exact allowed.1
      · trivial
    · next wanted =>
      split
      · next allowed =>
        refine ⟨?_, allowed⟩
        rintro rfl
        -- The empty text is null and asks for quotes.
        cases resolve_of_wantedStyle wanted
      · exact quotes (by simp [wanted])
    · next wanted _ => exact quotes wanted

/-- A text without quotes reads back as a string. -/
theorem resolve_of_style {withinLine : Bool} {cs : List Char}
    (plain : style withinLine cs = .plain) :
    resolve cs = .string := by
  apply resolve_of_wantedStyle
  unfold style at plain
  split at plain
  · cases plain
  · split at plain
    · split at plain <;> cases plain
    · next wanted => exact wanted
    · split at plain <;> cases plain

/-- Within a line there are no blocks. -/
theorem style_ne_literal (cs : List Char) : style true cs ≠ .literal := by
  unfold style
  split
  · simp
  -- A block is given up for double quotes within a line.
  · split
    · simp
    · split
      · simp
      · split <;> simp
    · split <;> simp

/-! ### Numbers -/

/-- No number starts with an indicator, apart from the sign. -/
theorem not_mem_startIndicators {c : Char} (numeric : IsNumeric c) : c ∉ startIndicators := by
  intro member
  revert numeric
  simp only [startIndicators, List.mem_cons, List.not_mem_nil, or_false] at member
  rcases member with rfl | rfl | rfl | rfl | rfl | rfl | rfl | rfl | rfl | rfl | rfl | rfl | rfl |
    rfl | rfl | rfl <;> decide

/-- Digits are neither blanks nor line breaks. -/
theorem isSpaceOrBreak_of_isDigit {c : Char} (digit : c.isDigit = true) :
    isSpaceOrBreak c = false := by
  rw [Bool.eq_false_iff]
  intro blank
  simp only [isSpaceOrBreak, isBreak, Bool.or_eq_true, beq_iff_eq] at blank
  rcases blank with rfl | (((rfl | rfl) | rfl) | rfl) | rfl <;> cases digit

/-- Digits are printable. -/
theorem isPrintable_of_isDigit {c : Char} (digit : c.isDigit = true) : isPrintable c = true := by
  have range := Digits.toNat_of_isDigit digit
  simp only [isPrintable, Bool.or_eq_true, Bool.and_eq_true, decide_eq_true_eq]
  omega

/-- The characters of numbers are printable and solid. -/
theorem isPrintable_of_isNumeric {c : Char} (numeric : IsNumeric c) :
    isPrintable c = true ∧ isSpaceOrBreak c = false := by
  rcases numeric with digit | rfl | rfl | rfl
  · exact ⟨isPrintable_of_isDigit digit, isSpaceOrBreak_of_isDigit digit⟩
  all_goals decide

/-- The characters of numbers stand for themselves, unless a sign stands alone. -/
theorem isIndicator_of_isNumeric {n : Neighbourhood} (numeric : IsNumeric n.char)
    (joined : n.isFirst = true → n.char = '-' → isSpaceOrEnd n.after = false) :
    isIndicator n = false := by
  -- None of the three characters that depend on their neighbours occurs in numbers.
  have others : n.char ≠ '?' ∧ n.char ≠ ':' ∧ n.char ≠ '#' := by
    refine ⟨?_, ?_, ?_⟩ <;> intro other <;> rw [other] at numeric <;> revert numeric <;> decide
  unfold isIndicator
  split
  -- At the start a sign is the only character of numbers that might be an indicator.
  · next first =>
    by_cases sign : n.char = '-'
    · simp [sign, joined first sign, startIndicators]
    · simp [sign, others, not_mem_startIndicators numeric]
  · simp [others]

/-- After its first character nothing in a number is an indicator. -/
theorem safe_of_isNumeric (before : Char) {cs : List Char} (numeric : ∀ c ∈ cs, IsNumeric c) :
    (neighbourhoods (some before) cs).any isIndicator = false := by
  induction cs generalizing before with
  | nil => rfl
  | cons c cs ih =>
    obtain ⟨first, others⟩ := List.forall_mem_cons.mp numeric
    rw [neighbourhoods, List.any_cons, ih c others, Bool.or_false]
    exact isIndicator_of_isNumeric first (by simp)

/-- A number may be written without quotes. -/
theorem allowsPlain_of_isNumeric (negative : Bool) {c : Char} {rest : List Char}
    (first : c.isDigit = true) (numeric : ∀ d ∈ rest, IsNumeric d) :
    allowsPlain (signed negative (c :: rest)) = true := by
  have other {d : Char} (isOther : d.isDigit = false) : c ≠ d := by
    rintro rfl
    rw [first] at isOther
    cases isOther
  have dash : c ≠ '-' := other rfl
  have dot : c ≠ '.' := other rfl
  -- Markers are three dashes or dots, and a digit comes first or second here.
  have marker : startsLikeMarker (signed negative (c :: rest)) = false := by
    cases negative <;> simp [startsLikeMarker, dash, dot]
  -- A sign is followed by a digit, so it does not stand alone.
  have safe : (neighbourhoods none (signed negative (c :: rest))).any isIndicator = false := by
    have digit (n : Neighbourhood) (same : n.char = c) : isIndicator n = false :=
      isIndicator_of_isNumeric (.inl (same ▸ first)) fun _ sign =>
        absurd (same.symm.trans sign) dash
    cases negative with
    | false =>
      rw [signed_false, neighbourhoods, List.any_cons, safe_of_isNumeric c numeric, Bool.or_false]
      exact digit _ rfl
    | true =>
      rw [signed_true, neighbourhoods, List.any_cons, safe_of_isNumeric '-'
        (List.forall_mem_cons.mpr ⟨.inl first, numeric⟩), Bool.or_false]
      refine isIndicator_of_isNumeric (.inr (.inl rfl)) fun _ _ => ?_
      have solid := isSpaceOrBreak_of_isDigit first
      have printable := isPrintable_of_isDigit first
      simpa [isSpaceOrEnd, isBlank_eq_of_isPrintable printable, isSpaceOrBreak] using solid
  have printable : ∀ d ∈ signed negative (c :: rest),
      isPrintable d = true ∧ isSpaceOrBreak d = false := by
    intro d member
    apply isPrintable_of_isNumeric
    cases negative with
    | false => exact List.forall_mem_cons.mpr ⟨.inl first, numeric⟩ d member
    | true =>
      exact List.forall_mem_cons.mpr ⟨.inr (.inl rfl),
        List.forall_mem_cons.mpr ⟨.inl first, numeric⟩⟩ d member
  -- Neither end is white space, as no character is.
  have ends {d? : Option Char} (within : ∀ d, d? = some d → d ∈ signed negative (c :: rest)) :
      d?.any isSpaceOrBreak = false := by
    cases d? with
    | none => rfl
    | some d => exact (printable d (within d rfl)).2
  simp only [allowsPlain, Bool.and_eq_true, Bool.not_eq_true', List.all_eq_true,
    List.any_eq_false, marker, safe, and_true]
  refine ⟨⟨⟨fun d member => (printable d member).1, fun d member => ?_⟩, ?_⟩, ?_⟩
  · have solid := (printable d member).2
    simp only [isSpaceOrBreak, Bool.or_eq_false_iff] at solid
    simp [solid.2]
  · exact ends fun d => List.mem_of_head?
  · exact ends fun d => List.mem_of_getLast?

/-- An integer may be written without quotes. -/
theorem allowsPlain_ofInt (n : Int) : allowsPlain (Digits.ofInt n) = true := by
  obtain ⟨c, rest, digits, first⟩ := exists_ofNat_eq n.natAbs
  have numeric (d : Char) (member : d ∈ rest) : IsNumeric d :=
    isNumeric_of_mem_ofNat (n := n.natAbs) (digits ▸ List.mem_cons_of_mem c member)
  rw [ofInt_eq_signed, digits]
  exact allowsPlain_of_isNumeric _ first numeric

/-- A double may be written without quotes. -/
theorem allowsPlain_chars (x : Double) : allowsPlain (Double.yamlLayout.chars x) = true := by
  unfold Double.Layout.chars
  cases number : x.isNaN with
  | true => rfl
  | false =>
    have range : x.magnitude ≤ Double.infinityBits := by simpa [Double.isNaN] using number
    rcases range.lt_or_eq with below | infinite
    -- A finite double is a sign and a size, which starts with a digit.
    · have finite : x.isFinite = true := by simpa [Double.isFinite] using below
      have bounded : x.isInfinite = false := by simp [Double.isInfinite, below.ne]
      obtain ⟨d, spelled, -⟩ := exists_spells_sizeText finite
      have numeric := spelled.isNumeric
      obtain ⟨c, rest, text, first⟩ := spelled.exists_eq
      rw [text] at numeric
      have plain := allowsPlain_of_isNumeric x.isNegative first (List.forall_mem_cons.mp numeric).2
      simpa [bounded, text, signed] using plain
    -- Infinity is a word, with a sign or without.
    · have unbounded : x.isInfinite = true := by simp [Double.isInfinite, infinite]
      rw [unbounded]
      cases x.isNegative <;> rfl

/-- The text of a double is not empty. -/
theorem chars_ne_nil (x : Double) : Double.yamlLayout.chars x ≠ [] := by
  have size := Double.yamlLayout.sizeText_ne_nil x
  unfold Double.Layout.chars
  split
  · simp [Double.yamlLayout]
  · dsimp only
    split
    · simp
    · split
      · simp [Double.yamlLayout]
      · exact size

/-! ### Leaves -/

/-- A value without parts, as it is set out. -/
inductive Leaf where
  | word (cs : List Char) (style : Style)
  | noItems
  | noEntries

namespace Leaf

/-- How a value without parts is set out; of collections there are only the empty ones. -/
def ofContent : Content → Leaf
  | .null => word "null".toList .plain
  | .bool b => word (if b then "true".toList else "false".toList) .plain
  | .int n => word (Digits.ofInt n) .plain
  | .float x => word (Double.yamlLayout.chars x) .plain
  | .string s => word s.toList (style false s.toList)
  | .sequence _ => noItems
  | .mapping _ => noEntries

/-- The text of a leaf. -/
def text (indent : Nat) : Leaf → List Char
  | word cs style => styled indent cs style
  | noItems => ['[', ']']
  | noEntries => ['{', '}']

/-- Whether the text of a leaf suits its style. -/
def IsSuited : Leaf → Prop
  | word cs style => Suits cs style
  | noItems | noEntries => True

/-- The kinds of the tokens of a leaf. -/
def tokens : Leaf → List Token.Kind
  | word cs style => [.scalar (String.ofList cs) style.presentation]
  | noItems => [.flowSequenceStart, .flowSequenceEnd]
  | noEntries => [.flowMappingStart, .flowMappingEnd]

end Leaf

/-- The text of a scalar is the text of its leaf. -/
theorem scalar_eq (indent : Nat) (value : Content) :
    scalar indent value = (Leaf.ofContent value).text indent := by
  -- The two truth values are written by cases on both sides.
  cases value with
  | bool b => cases b <;> rfl
  | _ => rfl

/-- A scalar is set out in a style that suits it. -/
theorem isSuited_ofContent (value : Content) : (Leaf.ofContent value).IsSuited := by
  cases value with
  | null => exact ⟨by decide, rfl⟩
  | bool b => cases b <;> exact ⟨by decide, rfl⟩
  | int n => exact ⟨Digits.ofInt_ne_nil n, allowsPlain_ofInt n⟩
  | float x => exact ⟨chars_ne_nil x, allowsPlain_chars x⟩
  | string s => exact suits_style false s.toList
  | sequence _ | mapping _ => trivial

end ToolPolicy.Yaml
