import ToolPolicy.Json.Fault
import ToolPolicy.Number

/-! Numbers in JSON texts. Integers of sixty-four bits are exact. Any other number is the leading
digits that fit in sixty-four bits, rounded to a double and scaled by a rounded power of ten. -/

namespace ToolPolicy.Json

/-- A value and the text after it, or where reading stopped. -/
abbrev Step (α : Type) := Except Stop (α × List Char)

/-- Stops before the text that is left. -/
def stopAt {α : Type} (fault : Fault) (left : List Char) : Except Stop α := .error ⟨fault, left, 0⟩

/-- Stops after the first byte of the text that is left. -/
def stopPast {α : Type} (fault : Fault) (left : List Char) : Except Stop α :=
  .error ⟨fault, left, 1⟩

/-- The greatest exponent that is counted. -/
def maxExponent : Nat := 0x7fffffff

/-- Adds digits to a significand as long as it fits in sixty-four bits; also how many were added. -/
def gather (significand count : Nat) : List Char → Nat × Nat × List Char
  | [] => (significand, count, [])
  | c :: rest =>
    if c.isDigit && significand * 10 + Digits.value c < 0x10000000000000000 then
      gather (significand * 10 + Digits.value c) (count + 1) rest
    else (significand, count, c :: rest)

/-- A power of ten, rounded to a double. -/
def powerOfTen (n : Nat) : Double := Double.ofDecimal false 1 n

/-- Divides by a power of ten; powers past the range of doubles are taken in steps of 308. -/
def scaleDown (x : Double) (exponent : Nat) : Double :=
  if exponent ≤ 308 then x.overSize (powerOfTen exponent)
  else if x.isZero then x
  else scaleDown (x.overSize (powerOfTen 308)) (exponent - 308)
termination_by exponent

/-- The double of a significand and a power of ten; too large a number is none. -/
def scaled (significand : Nat) (exponent : Int) : Option Double :=
  let x := Double.ofRatio false significand 1
  if exponent < 0 then some (scaleDown x exponent.natAbs)
  else if exponent ≤ 308 then
    let y := x.timesSize (powerOfTen exponent.toNat)
    -- Both factors are rounded, so the product is not always the nearest double.
    if y.isInfinite then none else some y
  else if x.isZero then some x
  else none

/-- The sign and the size together. -/
def signed (negative : Bool) (x : Double) : Double := if negative then x.neg else x

/-- The number of its parts, read up to the text that is left. -/
def ofParts (negative : Bool) (significand : Nat) (exponent : Int) (left : List Char) :
    Step Number :=
  match scaled significand exponent with
  | some x => .ok (.float (signed negative x), left)
  | none => stopAt .numberOutOfRange left

/-- Reads the digits of an exponent, `e` having been read so far. -/
def readExponentDigits (negative down : Bool) (significand : Nat) (exponent : Int) (e : Nat) :
    List Char → Step Number
  | [] => ofParts negative significand (if down then exponent - e else exponent + e) []
  | c :: rest =>
    if c.isDigit then
      let e' := e * 10 + Digits.value c
      if maxExponent < e' then
        -- So large an exponent makes the number zero or too large, whatever digits follow.
        if significand ≠ 0 && !down then stopAt .numberOutOfRange rest
        else .ok (.float (Double.zero negative), rest.dropWhile Char.isDigit)
      else readExponentDigits negative down significand exponent e' rest
    else ofParts negative significand (if down then exponent - e else exponent + e) (c :: rest)

/-- Reads what follows the letter of an exponent. -/
def readExponent (negative : Bool) (significand : Nat) (exponent : Int) (cs : List Char) :
    Step Number :=
  let (down, digits) := match cs with
    | '+' :: rest => (false, rest)
    | '-' :: rest => (true, rest)
    | _ => (false, cs)
  match digits with
  | [] => stopAt .endInValue []
  | c :: _ =>
    if c.isDigit then readExponentDigits negative down significand exponent 0 digits
    else stopPast .invalidNumber digits

/-- Reads what follows the digits of a number that is not an integer. -/
def readTail (negative : Bool) (significand : Nat) (exponent : Int) (cs : List Char) :
    Step Number :=
  match cs with
  | 'e' :: rest | 'E' :: rest => readExponent negative significand exponent rest
  | _ => ofParts negative significand exponent cs

/-- Reads what follows the point; digits that no longer fit are dropped. -/
def readFraction (negative : Bool) (significand : Nat) (exponent : Int) (cs : List Char) :
    Step Number :=
  match cs with
  | [] => stopPast .endInValue []
  | c :: _ =>
    if c.isDigit then
      let (significand', count, rest) := gather significand 0 cs
      readTail negative significand' (exponent - count) (rest.dropWhile Char.isDigit)
    else stopPast .invalidNumber cs

/-- Reads what follows the first digits; digits that no longer fit raise the exponent. -/
def readAfterInteger (negative : Bool) (significand : Nat) (cs : List Char) : Step Number :=
  let extra := cs.takeWhile Char.isDigit
  let rest := cs.dropWhile Char.isDigit
  match rest with
  | '.' :: fraction => readFraction negative significand extra.length fraction
  | _ =>
    -- Minus zero is no integer, because integers have no signed zero.
    let fits := !negative || (significand ≠ 0 && significand ≤ 0x8000000000000000)
    match rest with
    | 'e' :: _ | 'E' :: _ => readTail negative significand extra.length rest
    | _ =>
      if !extra.isEmpty then ofParts negative significand extra.length rest
      else if fits then .ok (.integer (if negative then -significand else significand), rest)
      else .ok (.float (signed negative (Double.ofRatio false significand 1)), rest)

/-- Reads a number after its sign. -/
def readNumber (negative : Bool) (cs : List Char) : Step Number :=
  match cs with
  | [] => stopAt .endInValue []
  | '0' :: rest =>
    if (rest.head?.map Char.isDigit).getD false then stopPast .invalidNumber rest
    else readAfterInteger negative 0 rest
  | c :: _ =>
    if c.isDigit then
      let (significand, _, rest) := gather 0 0 cs
      readAfterInteger negative significand rest
    else stopPast .invalidNumber cs

end ToolPolicy.Json
