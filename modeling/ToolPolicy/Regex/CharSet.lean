import ToolPolicy.Regex.Pattern
import ToolPolicy.Regex.PropertyTable

/-! Sets of characters. They are asked only for ASCII characters, which the texts to match are made
of, and while case does not count, also for the long s and the Kelvin sign. -/

namespace ToolPolicy.Regex

/-- A set with what its ranges weigh in a compiled pattern. -/
structure CharSet where
  has : Char → Bool
  weight : Nat

namespace CharSet

/-- What a range of ASCII characters weighs. -/
def rangeWeight : Nat := 8

/-- What a set weighs beside its ranges. -/
def baseWeight : Nat := 64

/-- What the characters beyond ASCII weigh that a set loses or gains by being negated. -/
def complementWeight : Nat := 936

/-- What the long s and the Kelvin sign weigh. -/
def variantWeight : Nat := 160

def empty : CharSet := ⟨fun _ => false, 0⟩

/-- The characters from one to another. -/
def range (first last : Char) : CharSet := ⟨fun c => first ≤ c && c ≤ last, rangeWeight⟩

def single (char : Char) : CharSet := range char char

/-- The characters with codes in ranges. -/
def ofRanges (ranges : List (Nat × Nat)) (weight : Nat) : CharSet :=
  ⟨fun c => ranges.any fun (first, last) => first ≤ c.toNat && c.toNat ≤ last, weight⟩

def union (s t : CharSet) : CharSet := ⟨fun c => s.has c || t.has c, s.weight + t.weight⟩

def complement (s : CharSet) : CharSet := ⟨fun c => !s.has c, s.weight + complementWeight⟩

/-- The set or, where it is negated, the characters that are not in it. -/
def negateIf (s : CharSet) (negated : Bool) : CharSet := if negated then s.complement else s

def combine (s t : CharSet) : ClassOperation → CharSet
  | .intersection => ⟨fun c => s.has c && t.has c, max s.weight t.weight⟩
  | .difference => ⟨fun c => s.has c && !t.has c, max s.weight t.weight⟩
  | .symmetricDifference => ⟨fun c => s.has c != t.has c, max s.weight t.weight⟩

/-- The other forms of a letter that differ in case. Where only ASCII counts, the signs beyond it
are none. -/
def variants (isUnicode : Bool) (c : Char) : List Char :=
  let beyond (cs : List Char) : List Char := if isUnicode then cs else []
  match c with
  | 'k' => 'K' :: beyond ['\u212a']
  | 'K' => 'k' :: beyond ['\u212a']
  | 's' => 'S' :: beyond ['\u017f']
  | 'S' => 's' :: beyond ['\u017f']
  | '\u212a' => beyond ['k', 'K']
  | '\u017f' => beyond ['s', 'S']
  | c => if c.isUpper then [c.toLower] else if c.isLower then [c.toUpper] else []

/-- The set with all variants of its characters. -/
def fold (s : CharSet) (isUnicode : Bool) : CharSet :=
  let gains := isUnicode && ['k', 's', 'K', 'S'].any s.has
  ⟨fun c => s.has c || (variants isUnicode c).any s.has,
    2 * s.weight + (if gains then variantWeight else 0)⟩

end CharSet

/-- The ranges of a named class. -/
def AsciiClass.ranges : AsciiClass → List (Nat × Nat)
  | alnum => [(0x30, 0x39), (0x41, 0x5a), (0x61, 0x7a)]
  | alpha => [(0x41, 0x5a), (0x61, 0x7a)]
  | ascii => [(0x00, 0x7f)]
  | blank => [(0x09, 0x09), (0x20, 0x20)]
  | cntrl => [(0x00, 0x1f), (0x7f, 0x7f)]
  | digit => [(0x30, 0x39)]
  | graph => [(0x21, 0x7e)]
  | lower => [(0x61, 0x7a)]
  | print => [(0x20, 0x7e)]
  | punct => [(0x21, 0x2f), (0x3a, 0x40), (0x5b, 0x60), (0x7b, 0x7e)]
  | space => [(0x09, 0x0d), (0x20, 0x20)]
  | upper => [(0x41, 0x5a)]
  | word => [(0x30, 0x39), (0x41, 0x5a), (0x5f, 0x5f), (0x61, 0x7a)]
  | xdigit => [(0x30, 0x39), (0x41, 0x46), (0x61, 0x66)]

/-- The characters of a named class. -/
def AsciiClass.set (kind : AsciiClass) : CharSet :=
  .ofRanges kind.ranges (CharSet.rangeWeight * kind.ranges.length)

/-- The characters of a class that has a letter as escape. Where more than ASCII counts, words have
the long s and the Kelvin sign too, and all scripts weigh. -/
def ShortClass.set (isUnicode : Bool) : ShortClass → CharSet
  | digit =>
    if isUnicode then { AsciiClass.digit.set with weight := 4576 } else AsciiClass.digit.set
  | space => if isUnicode then { AsciiClass.space.set with weight := 616 } else AsciiClass.space.set
  | word =>
    if isUnicode then
      .ofRanges (AsciiClass.word.ranges ++ [(0x17f, 0x17f), (0x212a, 0x212a)]) 48264
    else AsciiClass.word.set

end ToolPolicy.Regex
