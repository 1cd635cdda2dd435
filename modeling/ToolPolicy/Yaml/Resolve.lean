import ToolPolicy.Number
import ToolPolicy.Text.Digits

/-! What an untagged plain scalar stands for. -/

namespace ToolPolicy.Yaml

/-- The meaning of a plain scalar. -/
inductive Scalar where
  | null
  | bool (b : Bool)
  | integer (n : Int)
  /-- An integer of more than sixty-four bits that still has a width of its own. -/
  | wide (n : Int)
  | float (x : Double)
  | string
deriving DecidableEq, Repr

/-- The spellings of null; the empty scalar is null where it is not tagged. -/
def isNull (cs : List Char) : Bool :=
  cs ∈ ["null".toList, "Null".toList, "NULL".toList, ['~']]

/-- The spellings of truth values. -/
def bool? (cs : List Char) : Option Bool :=
  if cs ∈ ["true".toList, "True".toList, "TRUE".toList] then some true
  else if cs ∈ ["false".toList, "False".toList, "FALSE".toList] then some false
  else none

/-- The value of a digit in some base up to thirty-six. -/
def digitIn? (base : Nat) (c : Char) : Option Nat :=
  let value? :=
    if '0' ≤ c ∧ c ≤ '9' then some (c.toNat - 48)
    else if 'a' ≤ c ∧ c ≤ 'z' then some (c.toNat - 87)
    else if 'A' ≤ c ∧ c ≤ 'Z' then some (c.toNat - 55)
    else none
  value?.filter (· < base)

/-- The number that digits of a base stand for; there must be at least one. -/
def natIn? (base : Nat) (cs : List Char) : Option Nat :=
  if cs.isEmpty then none
  else cs.foldl (fun n? c => do return (← n?) * base + (← digitIn? base c)) (some 0)

/-- Digits with a leading zero look like a number and are a string. -/
def hasLeadingZero (cs : List Char) : Bool :=
  let digits := match cs with
    | '-' :: rest | '+' :: rest => rest
    | _ => cs
  1 < digits.length && digits.head? == some '0' && digits.all Char.isDigit

/-- The text after a leading plus sign, if there is one. -/
def dropPlus : List Char → List Char
  | '+' :: rest => rest
  | cs => cs

/-- The number with a base sign in front of its digits. -/
def based? (cs : List Char) : Option Nat :=
  match cs with
  | '0' :: 'x' :: digits => natIn? 16 digits
  | '0' :: 'o' :: digits => natIn? 8 digits
  | '0' :: 'b' :: digits => natIn? 2 digits
  | _ => none

/-- An integer without a minus sign, up to a bound. -/
def unsigned? (bound : Nat) (cs : List Char) : Option Int :=
  let inBound (n? : Option Nat) : Option Nat := n?.filter (· ≤ bound)
  match inBound (based? (dropPlus cs)) with
  | some n => some n
  | none => if hasLeadingZero cs then none else (inBound (natIn? 10 (dropPlus cs))).map Int.ofNat

/-- An integer with a minus sign, down to a bound. -/
def negative? (bound : Nat) (cs : List Char) : Option Int :=
  let inBound (n? : Option Nat) : Option Nat := n?.filter (· ≤ bound)
  match cs with
  | '-' :: digits =>
    match inBound (based? digits) with
    | some n => some (-n)
    | none => if hasLeadingZero cs then none else (inBound (natIn? 10 digits)).map fun n => -n
  | _ => none

/-- The integer that a scalar stands for. -/
def integer? (cs : List Char) : Option Scalar :=
  match unsigned? 0xffffffffffffffff cs with
  | some n => some (.integer n)
  | none =>
    match negative? 0x8000000000000000 cs with
    | some n => some (.integer n)
    | none =>
      match unsigned? 0xffffffffffffffffffffffffffffffff cs with
      | some n => some (.wide n)
      | none => (negative? 0x80000000000000000000000000000000 cs).map .wide

/-- An exponent: digits with an optional sign. -/
def exponent? (cs : List Char) : Option Int :=
  match cs with
  | '-' :: digits => (natIn? 10 digits).map fun n => -n
  | '+' :: digits => (natIn? 10 digits).map Int.ofNat
  | _ => (natIn? 10 cs).map Int.ofNat

/-- A decimal with an optional sign, point and exponent, and at least one digit before the
exponent. -/
def decimal? (cs : List Char) : Option Double := do
  let (negative, cs) := match cs with
    | '-' :: rest => (true, rest)
    | '+' :: rest => (false, rest)
    | _ => (false, cs)
  let whole := cs.takeWhile Char.isDigit
  let rest := cs.dropWhile Char.isDigit
  let (fraction, rest) := match rest with
    | '.' :: rest => (rest.takeWhile Char.isDigit, rest.dropWhile Char.isDigit)
    | _ => ([], rest)
  guard (!(whole ++ fraction).isEmpty)
  let exponent ← match rest with
    | [] => some 0
    | 'e' :: digits | 'E' :: digits => exponent? digits
    | _ => none
  return Double.ofDecimal negative (Digits.toNat (whole ++ fraction)) (exponent - fraction.length)

/-- The double that a scalar stands for. A decimal that is too large for a double is none. -/
def float? (cs : List Char) : Option Double :=
  let unsigned := dropPlus cs
  -- After a plus sign no other sign may stand, though the decimal below would allow one.
  let signedTwice := unsigned.length < cs.length &&
    (unsigned.head? == some '+' || unsigned.head? == some '-')
  if signedTwice then none
  else if unsigned ∈ [".inf".toList, ".Inf".toList, ".INF".toList] then some (Double.infinity false)
  else if cs ∈ ["-.inf".toList, "-.Inf".toList, "-.INF".toList] then some (Double.infinity true)
  else if cs ∈ [".nan".toList, ".NaN".toList, ".NAN".toList] then some Double.nan
  else (decimal? unsigned).filter Double.isFinite

/-- The meaning of a plain scalar; whatever has no other meaning is a string. -/
def resolve (cs : List Char) : Scalar :=
  if cs.isEmpty || isNull cs then .null
  else
    match bool? cs with
    | some b => .bool b
    | none =>
      match integer? cs with
      | some n => n
      | none =>
        -- Such digits would also be a decimal.
        if hasLeadingZero cs then .string
        else
          match float? cs with
          | some x => .float x
          | none => .string

end ToolPolicy.Yaml
