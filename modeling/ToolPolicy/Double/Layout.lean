import ToolPolicy.Double.Shortest
import ToolPolicy.Text.Digits

/-! Texts of doubles. A layout fixes how the shortest digits are set out, and three layouts are in
use: display text, which is always positional, and the numbers of YAML and of JSON. -/

namespace ToolPolicy.Double

/-- How the digits of a finite double are set out and how the other values are spelled. -/
structure Layout where
  /-- Which of two equally near shortest decimals is written. -/
  tie : Tie
  /-- The positions of the decimal point, counted from the first digit, that need no exponent. -/
  positional : Int → Bool
  /-- Whether a whole number is written with a zero after the point. -/
  wholePoint : Bool
  /-- Whether an exponent that is not negative has a plus sign. -/
  exponentPlus : Bool
  infinityText : String
  nanText : String

/-- Display text has no exponents and writes whole numbers without a point. -/
def displayLayout : Layout := ⟨.up, fun _ => true, false, false, "inf", "NaN"⟩

/-- YAML numbers are positional from `0.00001` up to sixteen whole digits. -/
def yamlLayout : Layout :=
  ⟨.even, fun point => -5 < point ∧ point ≤ 16, true, false, ".inf", ".nan"⟩

/-- JSON numbers are laid out as YAML's, with a plus sign in exponents; JSON has no other values. -/
def jsonLayout : Layout := ⟨.even, fun point => -5 < point ∧ point ≤ 16, true, true, "null", "null"⟩

namespace Layout

/-- Digits with the decimal point `point` places after the first digit's left side. -/
def positionalText (l : Layout) (digits : List Char) (point : Int) : List Char :=
  if point ≤ 0 then
    '0' :: '.' :: List.replicate (-point).toNat '0' ++ digits
  else if digits.length ≤ point.toNat then
    digits ++ List.replicate (point.toNat - digits.length) '0' ++
      (if l.wholePoint then ['.', '0'] else [])
  else
    digits.take point.toNat ++ '.' :: digits.drop point.toNat

/-- One digit before the point, and an exponent. -/
def scientificText (l : Layout) (digits : List Char) (point : Int) : List Char :=
  let exponent := point - 1
  digits.take 1 ++ (if digits.length ≤ 1 then [] else '.' :: digits.drop 1) ++
    'e' :: (if l.exponentPlus && 0 ≤ exponent then ['+'] else []) ++ Digits.ofInt exponent

/-- The text of the size of a finite double. -/
def sizeText (l : Layout) (x : Double) : List Char :=
  let d := shortest l.tie x
  let digits := Digits.ofNat d.coefficient
  let point := (digits.length : Int) + d.exponent
  if x.isZero then '0' :: (if l.wholePoint then ['.', '0'] else [])
  else if l.positional point then l.positionalText digits point
  else l.scientificText digits point

/-- The text of a double. -/
def chars (l : Layout) (x : Double) : List Char :=
  if x.isNaN then l.nanText.toList
  else
    let size := if x.isInfinite then l.infinityText.toList else l.sizeText x
    if x.isNegative then '-' :: size else size

def text (l : Layout) (x : Double) : String := String.ofList (l.chars x)

/-- The size of a double has at least one digit. -/
theorem sizeText_ne_nil (l : Layout) (x : Double) : l.sizeText x ≠ [] := by
  unfold sizeText
  have written := Digits.ofNat_ne_nil (shortest l.tie x).coefficient
  dsimp only
  split
  · simp
  · split
    · -- A point stands among the digits, or zeros stand before or behind them.
      unfold positionalText
      split
      · simp
      · split
        · simp [written]
        · simp
    · simp [scientificText]

end Layout

end ToolPolicy.Double
