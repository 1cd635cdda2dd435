import ToolPolicy.Proofs.Loader.Bytes
import ToolPolicy.Proofs.Node.Text
import ToolPolicy.Proofs.Yaml.Display
import ToolPolicy.Proofs.Yaml.Lone
import ToolPolicy.Proofs.Yaml.Tree

/-! What comes back of a scalar whose display text is read as a policy file, and which scalars share
a display text. -/

namespace ToolPolicy

/-! ### Texts without white space -/

namespace Blank

variable {cs : List Char}

/-- A text without white space has none in front of it. -/
theorem dropWhile_of_solid (solid : ∀ c ∈ cs, isBlank c = false) : cs.dropWhile isBlank = cs := by
  cases cs with
  | nil => rfl
  | cons c rest => rw [List.dropWhile_cons, solid c List.mem_cons_self, if_neg Bool.false_ne_true]

/-- A text without white space is trimmed. -/
theorem trim_of_solid (solid : ∀ c ∈ cs, isBlank c = false) : trim cs = cs := by
  have back : ∀ c ∈ cs.reverse, isBlank c = false := fun c member =>
    solid c (List.mem_reverse.mp member)
  rw [trim, dropWhile_of_solid solid, dropWhile_of_solid back, List.reverse_reverse]

/-- A text without white space is a line. -/
theorem lines_of_solid (nonempty : cs ≠ []) (solid : ∀ c ∈ cs, isBlank c = false) :
    lines cs = [cs] := by
  -- The line that is being read grows, as no line feed ends it.
  have grown (cs : List Char) (solid : ∀ c ∈ cs, isBlank c = false) (line : List Char) :
      linesFrom line cs = linesFrom (cs.reverse ++ line) [] := by
    induction cs generalizing line with
    | nil => rfl
    | cons c rest ih =>
      obtain ⟨first, others⟩ := List.forall_mem_cons.mp solid
      -- A line feed is white space, of which there is none.
      have other : c ≠ '\n' := by
        rintro rfl
        exact absurd first (by decide)
      rw [linesFrom.eq_3 line c rest other, ih others, List.reverse_cons, List.append_assoc]
      rfl
  rw [lines, grown cs solid, List.append_nil, linesFrom]
  simp [nonempty]

end Blank

namespace Loader

variable {cs : List Char}

/-- A text that is a plain scalar without white space. -/
structure IsLone (cs : List Char) : Prop where
  nonempty : cs ≠ []
  allowed : Yaml.allowsPlain cs = true
  solid : ∀ c ∈ cs, Blank.isBlank c = false

/-- A text is checked character by character. -/
theorem isLone_iff : IsLone cs ↔
    (cs ≠ [] ∧ Yaml.allowsPlain cs = true) ∧ cs.all (fun c => !Blank.isBlank c) = true := by
  rw [List.all_eq_true]
  simp only [Bool.not_eq_true']
  exact ⟨fun lone => ⟨⟨lone.nonempty, lone.allowed⟩, lone.solid⟩,
    fun checked => ⟨checked.1.1, checked.1.2, checked.2⟩⟩

instance : DecidablePred IsLone := fun _ => decidable_of_iff _ isLone_iff.symm

namespace IsLone

/-- A plain scalar without white space is no blank text. -/
theorem isBlankText (lone : IsLone cs) : isBlankText cs = false := by
  obtain ⟨nonempty, allowed, solid⟩ := lone
  obtain ⟨c, rest, rfl⟩ := List.exists_cons_of_ne_nil nonempty
  -- A text may count as blank for three reasons, and no plain scalar can start like any of them.
  have noComment : c ≠ '#' := by
    rintro rfl
    exact (Yaml.Lexer.start_of_allowsPlain allowed []).1 (by decide)
  have noMarker : c :: rest ≠ ['-', '-', '-'] ∧ c :: rest ≠ ['.', '.', '.'] := by
    constructor <;> intro marker <;> rw [marker] at allowed <;> revert allowed <;> decide
  rw [Loader.isBlankText, Blank.lines_of_solid nonempty solid, List.all_cons, List.all_nil,
    Bool.and_true, isBlankLine, Blank.trim_of_solid solid]
  split
  · next empty => cases empty
  · next comment =>
    cases comment
    exact absurd rfl noComment
  · simp [noMarker]

/-- A plain scalar has no byte order mark. -/
theorem dropMark (lone : IsLone cs) : dropMark cs = cs := by
  have allowed := lone.allowed
  unfold Loader.dropMark
  split
  · simp only [Yaml.allowsPlain, Bool.and_eq_true, List.all_cons] at allowed
    exact absurd allowed.1.1.1.1.1.1 (by decide)
  · rfl

/-- A plain scalar without white space gives what it stands for. -/
theorem parse_eq_ok_iff (lone : IsLone cs) (path : String) {n : Node} :
    parse (String.ofList cs) path = .ok n ↔
      (Yaml.valueOf (String.ofList cs) (Yaml.resolve cs)).map Yaml.Value.toNode = .ok n := by
  obtain ⟨mark, parsed⟩ := Yaml.parse_plain lone.nonempty lone.allowed
  -- The shortcuts of the loader are not taken, and the parser gives the value of the scalar.
  rw [parse, String.toList_ofList, lone.dropMark, lone.isBlankText, if_neg Bool.false_ne_true,
    valueOf, parsed]
  -- A scalar has no merge keys to resolve.
  have merged (s : Yaml.Scalar) (v : Yaml.Value)
      (found : Yaml.valueOf (String.ofList cs) s = .ok v) : v.merge = .ok v := by
    cases s <;> cases found <;> rfl
  cases found : Yaml.valueOf (String.ofList cs) (Yaml.resolve cs) with
  | error cause => simp [Except.mapError, Except.map, bind, Except.bind]
  | ok v => simp [Except.mapError, Except.map, bind, Except.bind, merged _ v found]

end IsLone

end Loader

namespace Double

/--
Whether a double is read again from its display text.

With a part behind the point it is. Whole doubles are shown without a point, so that they are read
as integers where there are such. Of these, only the ones of sixty-four bits that are too large for
a node become doubles again.
-/
def IsKept (x : Double) : Prop :=
  x.isFinite = true ∧ (x.IsWhole →
    if x.isNegative then 2 ^ 127 < x.wholePart
    else 2 ^ 63 ≤ x.wholePart ∧ x.wholePart < 2 ^ 64 ∨ 2 ^ 128 ≤ x.wholePart)

/-- Whether an integer is what is shown of a double. -/
def IsShownAs (x : Double) (n : Int) : Prop :=
  x.IsWhole ∧ x.isNegative = decide (n < 0) ∧ x.shownWhole = n.natAbs

end Double

namespace Node

open Double (displayLayout)
open Loader (IsLone)
open Yaml (IsNumeric Scalar displayMeaning greatestSize signed signedInt)

/-! ### Texts of atoms -/

/-- Whether a value has no parts and is not a string. -/
def isAtom : Node → Bool
  | null | bool _ | int _ | float _ => true
  | string _ | sequence _ | mapping _ => false

/-- What the text of an atom stands for. -/
def meaning : Node → Scalar
  | null => .null
  | bool b => .bool b
  | int n => .integer n.toInt
  | float x => displayMeaning x
  | string _ | sequence _ | mapping _ => .string

/-- The characters of an integer. -/
theorem toList_text_int (n : Int64) : (int n).text.toList = Digits.ofInt n.toInt := by
  rw [text, Digits.int, String.toList_ofList]

/-- The characters of a double. -/
theorem toList_text_float (x : Double) : (float x).text.toList = displayLayout.chars x := by
  rw [text, Double.Layout.text, String.toList_ofList]

/-- The text of an atom is read as what it stands for. -/
theorem resolve_text {n : Node} (atom : n.isAtom = true) :
    Yaml.resolve n.text.toList = n.meaning := by
  cases n with
  | null => decide
  | bool b => cases b <;> decide
  -- The integers of a node lie within those of the parser.
  | int n =>
    have low : -0x8000000000000000 ≤ n.toInt := Int64.le_toInt n
    have high : n.toInt ≤ 0x7fffffffffffffff := Int64.toInt_le n
    rw [toList_text_int]
    exact Yaml.resolve_ofInt low (by omega)
  | float x =>
    rw [toList_text_float]
    exact Yaml.resolve_displayText x
  | string _ | sequence _ | mapping _ => cases atom

/-- The characters of numbers are not white space. -/
theorem isBlank_of_isNumeric {c : Char} (numeric : IsNumeric c) : Blank.isBlank c = false := by
  rcases numeric with digit | rfl | rfl | rfl
  · have range := Digits.toNat_of_isDigit digit
    simp [Blank.isBlank, Blank.ranges]
    omega
  all_goals decide

/-- Digits and the like behind a sign are a text for a scalar. -/
theorem isLone_signed (negative : Bool) {c : Char} {rest : List Char} (first : c.isDigit = true)
    (numeric : ∀ d ∈ c :: rest, IsNumeric d) : IsLone (signed negative (c :: rest)) where
  nonempty := by cases negative <;> simp
  allowed := Yaml.allowsPlain_of_isNumeric negative first (List.forall_mem_cons.mp numeric).2
  solid d member := isBlank_of_isNumeric (Yaml.isNumeric_signed negative numeric d member)

/-- The text of an atom is one for a scalar and nothing else. -/
theorem isLone_text {n : Node} (atom : n.isAtom = true) : IsLone n.text.toList := by
  cases n with
  | null => decide
  | bool b => cases b <;> decide
  | int n =>
    obtain ⟨c, rest, digits, first⟩ := Yaml.exists_ofNat_eq n.toInt.natAbs
    have numeric (d : Char) (member : d ∈ c :: rest) : IsNumeric d :=
      Yaml.isNumeric_of_mem_ofNat (digits ▸ member)
    rw [toList_text_int, Yaml.ofInt_eq_signed, digits]
    exact isLone_signed _ first numeric
  -- A finite double is a sign with digits and a point behind it; the others are shown as words.
  | float x =>
    rw [toList_text_float]
    cases finite : x.isFinite with
    | true =>
      obtain ⟨c, rest, size, first⟩ := Yaml.exists_sizeText_eq x
      have numeric (d : Char) (member : d ∈ c :: rest) : IsNumeric d :=
        (isDigit_or_point_of_mem_sizeText (size ▸ member)).imp_right fun point => .inr (.inl point)
      rw [Yaml.displayText_of_isFinite finite, size]
      exact isLone_signed _ first numeric
    | false =>
      rw [Yaml.displayText_of_not_isFinite finite]
      split
      · decide
      · cases x.isNegative <;> decide
  | string _ | sequence _ | mapping _ => cases atom

/-! ### Which atoms come back -/

/-- A whole double that is not zero is the double of the integer that it is shown as. -/
theorem ofInt_shownWhole {x : Double} (whole : x.IsWhole) (nonzero : x.isZero = false) :
    Double.ofInt (signedInt x.isNegative x.shownWhole) = x := by
  have positive := Double.shownWhole_pos nonzero whole.2
  have value := Double.ofRatio_shownWhole whole nonzero
  cases sign : x.isNegative with
  | false =>
    have size : ¬(x.shownWhole : Int) < 0 := by omega
    simpa [Double.ofInt, signedInt, sign, size] using value
  | true => simpa [Double.ofInt, signedInt, sign, positive] using value

/-- The integer that a whole double is shown as is read as the double where it is no integer of a
node. -/
theorem toNode_shownWhole_iff {x : Double} (whole : x.IsWhole) :
    (Number.integer (signedInt x.isNegative x.shownWhole)).toNode = float x ↔
      ¬(Number.minInt ≤ signedInt x.isNegative x.shownWhole ∧
        signedInt x.isNegative x.shownWhole ≤ Number.maxInt) := by
  rw [Number.toNode]
  split
  · next within => simp [within]
  · next beyond =>
    -- Zero lies within the integers of a node, so that what does not is no zero.
    have nonzero : x.isZero = false := by
      by_contra zero
      rw [Bool.not_eq_false] at zero
      rw [Double.shownWhole_of_isZero zero] at beyond
      revert beyond
      cases x.isNegative <;> decide
    rw [ofInt_shownWhole whole nonzero]
    simp [beyond]

/-- Whether a value is an atom that is read again from its display text. -/
def KeepsText : Node → Prop
  | null | bool _ | int _ => True
  | float x => x.IsKept
  | string _ | sequence _ | mapping _ => False

/-- Which whole doubles are kept can be seen from what is shown of them. -/
theorem isKept_iff_shownWhole {x : Double} (whole : x.IsWhole) :
    x.IsKept ↔
      x.shownWhole ≤ greatestSize x.isNegative 64 ∧
          ¬(Number.minInt ≤ signedInt x.isNegative x.shownWhole ∧
            signedInt x.isNegative x.shownWhole ≤ Number.maxInt) ∨
        greatestSize x.isNegative 128 < x.shownWhole := by
  -- The shortest digits are compared to the limits where the whole part would be: they pass the
  -- same ones, as each limit is a power of two.
  have node := Double.le_shownWhole_iff whole (.inl rfl)
  have large := Double.le_shownWhole_iff whole (.inr (.inl rfl))
  have wide := Double.le_shownWhole_iff whole (.inr (.inr rfl))
  have least := Double.lt_shownWhole_iff whole
  simp only [Double.IsKept, whole.1, whole, true_and, forall_const]
  cases x.isNegative with
  | true =>
    simp only [greatestSize, signedInt, Number.minInt, Number.maxInt, if_true]
    omega
  | false =>
    simp only [greatestSize, signedInt, Number.minInt, Number.maxInt, Bool.false_eq_true, if_false]
    omega

/-- What the display text of a double stands for is the double where it is kept. -/
theorem valueOf_displayMeaning_iff (x : Double) (s : String) :
    (Yaml.valueOf s (displayMeaning x)).map Yaml.Value.toNode = .ok (float x) ↔ x.IsKept := by
  unfold displayMeaning
  split
  -- What is no finite number is shown as a word for itself, and not kept.
  · next infinite => simp [Double.IsKept, infinite, Yaml.valueOf, Except.map, Yaml.Value.toNode]
  · next finite =>
    rw [Bool.not_eq_false] at finite
    split
    -- With a part behind the point the text can only be a double.
    · next broken =>
      have noWhole : ¬x.IsWhole := fun whole => broken whole.2
      simp [Double.IsKept, finite, noWhole, Yaml.valueOf, Except.map, Yaml.Value.toNode,
        Number.toNode]
    · next divisible =>
      have whole : x.IsWhole := ⟨finite, not_not.mp divisible⟩
      have wider : greatestSize x.isNegative 64 ≤ greatestSize x.isNegative 128 := by
        cases x.isNegative <;> decide
      rw [isKept_iff_shownWhole whole]
      split
      -- It is read as an integer of the parser, and kept where a node has no such integer.
      · next small =>
        show Except.ok (Number.integer _).toNode = _ ↔ _
        rw [Except.ok.injEq, toNode_shownWhole_iff whole]
        simp [small, (small.trans wider).not_gt]
      · next beyond =>
        split
        -- It is one of the wide integers, which are refused.
        · next small =>
          have refused : (Yaml.valueOf s (.wide (signedInt x.isNegative x.shownWhole))).map
              Yaml.Value.toNode ≠ .ok (float x) := by simp [Yaml.valueOf, Except.map]
          simp [refused, beyond, small.not_gt]
        -- It is too large for those as well and becomes a double again.
        · next outside =>
          have read : (Yaml.valueOf s (.float x)).map Yaml.Value.toNode = .ok (float x) := rfl
          simp [read, not_le.mp outside]

/-- An atom is read again from its text where it keeps it. -/
theorem parse_text_iff {n : Node} (atom : n.isAtom = true) (path : String) :
    Loader.parse n.text path = .ok n ↔ n.KeepsText := by
  have read := (isLone_text atom).parse_eq_ok_iff path (n := n)
  -- The text is one plain scalar, which is read as what it means.
  rw [String.ofList_toList, resolve_text atom] at read
  rw [read]
  cases n with
  | null => simp [meaning, KeepsText, Yaml.valueOf, Except.map, Yaml.Value.toNode]
  | bool b => simp [meaning, KeepsText, Yaml.valueOf, Except.map, Yaml.Value.toNode]
  | int n =>
    simp [meaning, KeepsText, Yaml.valueOf, Except.map, Yaml.Value.toNode,
      Yaml.Value.toNode_integer]
  | float x => exact valueOf_displayMeaning_iff x _
  | string _ | sequence _ | mapping _ => cases atom

/-! ### Which atoms share a text -/

/-- Different atoms that have one text: values that are no numbers, and an integer and the double
that it is shown of. -/
inductive Confused : Node → Node → Prop where
  | noNumbers {x y : Double} (left : x.isNaN = true) (right : y.isNaN = true) :
      Confused (float x) (float y)
  | whole {x : Double} {n : Int64} (shown : x.IsShownAs n.toInt) : Confused (int n) (float x)

/-- An integer shares its text with the doubles that it is shown of. -/
theorem text_int_eq_iff {n : Int64} {x : Double} :
    (int n).text = (float x).text ↔ x.IsShownAs n.toInt := by
  have texts (whole : x.IsWhole) : (int n).text = (float x).text ↔
      x.isNegative = decide (n.toInt < 0) ∧ x.shownWhole = n.toInt.natAbs := by
    rw [eq_comm, ← String.toList_inj, toList_text_int, toList_text_float, Yaml.ofInt_eq_signed,
      Yaml.displayText_of_isWhole whole, Yaml.signed_ofNat_inj_iff]
  constructor
  · intro same
    -- Equal texts are read alike, so that the double is shown as an integer and must be whole.
    have read : displayMeaning x = .integer n.toInt := by
      have words := congrArg (fun text => Yaml.resolve text.toList) same
      rw [resolve_text (n := int n) rfl, resolve_text (n := float x) rfl] at words
      exact words.symm
    have whole := Yaml.isWhole_of_displayMeaning read
    exact ⟨whole, (texts whole).mp same⟩
  · rintro ⟨whole, shown⟩
    exact (texts whole).mpr shown

/-- Atoms that stand for the same are the same, unless there is a double among them. -/
theorem eq_of_meaning_eq {m n : Node} (left : m.isAtom = true) (right : n.isAtom = true)
    (same : m.meaning = n.meaning) :
    m = n ∨ (∃ x y, m = float x ∧ n = float y) ∨ (∃ i x, m = int i ∧ n = float x) ∨
      ∃ i x, m = float x ∧ n = int i := by
  cases m with
  | null =>
    cases n with
    | null => exact .inl rfl
    -- The text of a double means a number or a string, and never null or a truth value.
    | float y => exact absurd same.symm (Yaml.displayMeaning_ne y).1
    | bool _ | int _ => cases same
    | string _ | sequence _ | mapping _ => cases right
  | bool b =>
    cases n with
    | bool c =>
      cases same
      exact .inl rfl
    | float y => exact absurd same.symm ((Yaml.displayMeaning_ne y).2 b)
    | null | int _ => cases same
    | string _ | sequence _ | mapping _ => cases right
  -- Integers are told apart by their meaning, but a whole double may mean the same as an integer.
  | int i =>
    cases n with
    | int j =>
      have value : i.toInt = j.toInt := by injection same
      exact .inl (congrArg int (Int64.toInt_inj.mp value))
    | float y => exact .inr (.inr (.inl ⟨i, y, rfl, rfl⟩))
    | null | bool _ => cases same
    | string _ | sequence _ | mapping _ => cases right
  | float x =>
    cases n with
    | null => exact absurd same (Yaml.displayMeaning_ne x).1
    | bool b => exact absurd same ((Yaml.displayMeaning_ne x).2 b)
    | int j => exact .inr (.inr (.inr ⟨j, x, rfl, rfl⟩))
    | float y => exact .inr (.inl ⟨x, y, rfl, rfl⟩)
    | string _ | sequence _ | mapping _ => cases right
  | string _ | sequence _ | mapping _ => cases left

/-- Doubles share a text where they are the same or no numbers. -/
theorem text_float_eq_iff {x y : Double} :
    (float x).text = (float y).text ↔ x = y ∨ x.isNaN = true ∧ y.isNaN = true := by
  rw [← String.toList_inj, toList_text_float, toList_text_float, Yaml.displayText_inj_iff]

/-- Confused atoms have one text. -/
theorem Confused.text_eq {m n : Node} (confused : Confused m n) : m.text = n.text := by
  cases confused with
  | noNumbers none none' => exact text_float_eq_iff.mpr (.inr ⟨none, none'⟩)
  | whole shown => exact text_int_eq_iff.mpr shown

/-- Atoms are told apart by their texts, unless they are confused. -/
theorem text_eq_text_iff {m n : Node} (left : m.isAtom = true) (right : n.isAtom = true) :
    m.text = n.text ↔ m = n ∨ Confused m n ∨ Confused n m := by
  constructor
  · intro same
    -- Atoms of one text stand for the same, which tells them apart unless there is a double.
    have meanings : m.meaning = n.meaning := by
      rw [← resolve_text left, ← resolve_text right, same]
    rcases eq_of_meaning_eq left right meanings with equal | ⟨x, y, rfl, rfl⟩ | ⟨i, x, rfl, rfl⟩ |
      ⟨i, x, rfl, rfl⟩
    · exact .inl equal
    · rcases text_float_eq_iff.mp same with rfl | ⟨none, none'⟩
      · exact .inl rfl
      · exact .inr (.inl (.noNumbers none none'))
    · exact .inr (.inl (.whole (text_int_eq_iff.mp same)))
    · exact .inr (.inr (.whole (text_int_eq_iff.mp same.symm)))
  · rintro (rfl | forth | back)
    · rfl
    · exact forth.text_eq
    · exact back.text_eq.symm

/--
An atom is read again from its display text exactly where it keeps it, and shares the text with no
other atom than those that it is confused with.
-/
theorem loadText_text {n : Node} (atom : n.isAtom = true) {limit : Nat}
    (within : n.text.utf8ByteSize ≤ limit) :
    (Loader.loadText limit n.text = .ok n ↔ n.KeepsText) ∧
      ∀ m : Node, m.isAtom = true → (m.text = n.text ↔ m = n ∨ Confused m n ∨ Confused n m) := by
  rw [Loader.loadText_of_le within]
  exact ⟨parse_text_iff atom Loader.memoryPath, fun m other => text_eq_text_iff other atom⟩

/-- One and a half. -/
def oneAndHalf : Node := float ⟨0x3ff8000000000000⟩

/-- A double with a part behind the point is read again. -/
theorem loadText_oneAndHalf : oneAndHalf.isAtom = true ∧
    oneAndHalf.text.utf8ByteSize ≤ Loader.defaultLimit ∧
    Loader.loadText Loader.defaultLimit oneAndHalf.text = .ok oneAndHalf := by
  have within : oneAndHalf.text.utf8ByteSize ≤ Loader.defaultLimit := by decide +kernel
  have broken : ¬Double.IsWhole ⟨0x3ff8000000000000⟩ := by decide +kernel
  exact ⟨rfl, within, (loadText_text rfl within).1.mpr ⟨rfl, fun whole => absurd whole broken⟩⟩

/-- One as a double. -/
def wholeOne : Node := float ⟨0x3ff0000000000000⟩

/-- One as a double has the text of the integer, and is read as the integer. -/
theorem loadText_wholeOne : wholeOne.isAtom = true ∧ wholeOne.text = "1" ∧
    (int 1).text = wholeOne.text ∧ int 1 ≠ wholeOne ∧
    Loader.loadText Loader.defaultLimit wholeOne.text = .ok (int 1) ∧
    Loader.loadText Loader.defaultLimit wholeOne.text ≠ .ok wholeOne := by
  have text : wholeOne.text = "1" := by decide +kernel
  have same : (int 1).text = wholeOne.text := by decide +kernel
  have read : Loader.loadText Loader.defaultLimit (int 1).text = .ok (int 1) := by
    rw [Loader.loadText_of_le (by decide +kernel)]
    exact (parse_text_iff (n := int 1) rfl Loader.memoryPath).mpr trivial
  rw [same] at read
  refine ⟨rfl, text, same, nofun, read, ?_⟩
  rw [read]
  exact nofun

end Node

end ToolPolicy
