/-! Labels of domain names with characters beyond ASCII, written in ASCII. -/

namespace ToolPolicy.Url.Punycode

/-- The character of a digit in base thirty-six: letters before numerals. -/
def digitChar (d : Nat) : Char := if d < 26 then Char.ofNat (97 + d) else Char.ofNat (22 + d)

/-- The value of a digit in base thirty-six. -/
def digitValue? (c : Char) : Option Nat :=
  if c.isLower then some (c.toNat - 97)
  else if c.isUpper then some (c.toNat - 65)
  else if c.isDigit then some (c.toNat - 22)
  else none

/-- The digit below which a number ends at a position. -/
def threshold (k bias : Nat) : Nat := if k ≤ bias then 1 else min 26 (k - bias)

theorem threshold_pos (k bias : Nat) : 1 ≤ threshold k bias := by
  unfold threshold
  split <;> omega

/-- Divides a gap down to the range of the bias. -/
def divideGap (gap k : Nat) : Nat × Nat :=
  if 455 < gap then divideGap (gap / 35) (k + 36) else (gap, k)
termination_by gap
decreasing_by omega

/-- The bias after a gap, given how many characters there are by then. -/
def adapt (gap count : Nat) (isFirst : Bool) : Nat :=
  let gap := if isFirst then gap / 700 else gap / 2
  let (rest, k) := divideGap (gap + gap / count) 0
  k + 36 * rest / (rest + 38)

/-- The digits of a gap. -/
def encodeGap (bias k q : Nat) : List Char :=
  let t := threshold k bias
  if q < t then [digitChar q]
  else digitChar (t + (q - t) % (36 - t)) :: encodeGap bias (k + 36) ((q - t) / (36 - t))
termination_by q
decreasing_by
  have positive := threshold_pos k bias
  have smaller : (q - threshold k bias) / (36 - threshold k bias) ≤ q - threshold k bias :=
    Nat.div_le_self _ _
  omega

/-- The text so far, the gap to the next character, the bias, and how many characters are done. -/
structure Encoding where
  text : List Char
  gap : Nat
  bias : Nat
  done : Nat

/-- Passes over a character while those with a code are written. -/
def encodeChar (basic code : Nat) (e : Encoding) (c : Char) : Encoding :=
  if c.toNat < code then { e with gap := e.gap + 1 }
  else if c.toNat = code then
    { text := e.text ++ encodeGap e.bias 36 e.gap
      gap := 0
      bias := adapt e.gap (e.done + 1) (e.done == basic)
      done := e.done + 1 }
  else e

/-- Writes the characters with codes, the least first. -/
def encodeCodes (label : List Char) (basic : Nat) : Nat → List Nat → Encoding → Encoding
  | _, [], e => e
  | next, code :: codes, e =>
    -- For each code that no character has, all places of the label so far are passed over.
    let start := { e with gap := e.gap + (code - next) * (e.done + 1) }
    let after := label.foldl (encodeChar basic code) start
    encodeCodes label basic (code + 1) codes { after with gap := after.gap + 1 }

/-- A label in ASCII: its ASCII characters first. -/
def encode (label : List Char) : List Char :=
  let basic := label.filter (·.toNat < 0x80)
  let codes := ((label.filter (0x80 ≤ ·.toNat)).map Char.toNat).mergeSort.eraseDups
  let e := encodeCodes label basic.length 0x80 codes ⟨[], 0, 72, basic.length⟩
  basic ++ (if basic.isEmpty then [] else ['-']) ++ e.text

/-- Reads the digits of a gap, each with its weight. -/
def decodeGap (bias : Nat) : Nat → Nat → Nat → List Char → Option (Nat × List Char)
  | _, _, _, [] => none
  | k, weight, gap, c :: rest => do
    let d ← digitValue? c
    let t := threshold k bias
    let gap := gap + d * weight
    if d < t then return (gap, rest) else decodeGap bias (k + 36) (weight * (36 - t)) gap rest

/-- Puts the characters in whose gaps follow. The fuel is more than the digits left. -/
def decodeGaps : Nat → Nat → Nat → Nat → List Char → List Char → Option (List Char)
  | 0, _, _, _, _, _ => none
  | _ + 1, _, _, _, label, [] => some label
  | fuel + 1, bias, code, place, label, cs => do
    let (gap, rest) ← decodeGap bias 36 1 0 cs
    let count := label.length + 1
    -- A gap counts places in the label, and every time it goes around the code grows by one.
    let total := place + gap
    let code := code + total / count
    let place := total % count
    if code.isValidChar then
      decodeGaps fuel (adapt gap count (label.all (·.toNat < 0x80))) code (place + 1)
        (label.take place ++ [Char.ofNat code] ++ label.drop place) rest
    else none

/-- The part before the last hyphen and the part after it; without a hyphen the former is empty. -/
def splitLast (cs : List Char) : List Char × List Char :=
  let after := (cs.reverse.takeWhile (· != '-')).reverse
  (cs.take (cs.length - after.length - 1), after)

/-- The label that a text in ASCII stands for. -/
def decode (cs : List Char) : Option (List Char) :=
  let (basic, gaps) := splitLast cs
  decodeGaps (cs.length + 1) 72 0x80 0 basic gaps

end ToolPolicy.Url.Punycode
