import ToolPolicy.Text.Digits

/-! Reading bytes as UTF-8. A fault is reported where its sequence starts, with the number of bytes
that were fit to begin a character. -/

namespace ToolPolicy.Utf8

/-- Why bytes are not text. -/
inductive Fault where
  /-- The bytes at the index cannot belong to one character. -/
  | invalid (length index : Nat)
  /-- The bytes end within the character at the index. -/
  | incomplete (index : Nat)
deriving DecidableEq, Repr

def Fault.message : Fault → String
  | .invalid length index =>
    "invalid utf-8 sequence of " ++ Digits.nat length ++ " bytes from index " ++ Digits.nat index
  | .incomplete index => "incomplete utf-8 byte sequence from index " ++ Digits.nat index

/-- A byte that continues a character. -/
def isContinuation (b : UInt8) : Bool := 0x80 ≤ b && b ≤ 0xbf

/-- The bytes that may follow a first byte; they rule out overlong forms and surrogates. -/
def secondFits (first second : UInt8) : Bool :=
  if first = 0xe0 then 0xa0 ≤ second && second ≤ 0xbf
  else if first = 0xed then 0x80 ≤ second && second ≤ 0x9f
  else if first = 0xf0 then 0x90 ≤ second && second ≤ 0xbf
  else if first = 0xf4 then 0x80 ≤ second && second ≤ 0x8f
  else isContinuation second

/-- The number of bytes of the character that a byte starts, or none if it starts no character. -/
def width (first : UInt8) : Option Nat :=
  if first < 0x80 then some 1
  else if 0xc2 ≤ first && first ≤ 0xdf then some 2
  else if 0xe0 ≤ first && first ≤ 0xef then some 3
  else if 0xf0 ≤ first && first ≤ 0xf4 then some 4
  else none

/-- How many of the bytes after a first byte continue its character, up to the number due. -/
def continued (first : UInt8) (due : Nat) (rest : List UInt8) : Nat :=
  match due, rest with
  | 0, _ | _, [] => 0
  | n + 1, b :: more =>
    if secondFits first b then 1 + ((more.take n).takeWhile isContinuation).length else 0

/-- The character of a whole sequence. -/
def charOf (first : UInt8) (rest : List UInt8) : Char :=
  -- The first byte tells the length by its leading ones; the bits after them count.
  let lead := first.toNat % Nat.pow 2 (if rest.isEmpty then 7 else 6 - rest.length)
  Char.ofNat (rest.foldl (fun code b => code * 64 + b.toNat % 64) lead)

/-- Decodes the bytes that start at an index. -/
def decodeFrom (index : Nat) : List UInt8 → Except Fault (List Char)
  | [] => .ok []
  | first :: rest =>
    match width first with
    | none => .error (.invalid 1 index)
    | some n =>
      let due := n - 1
      let present := continued first due rest
      if present = due then
        match decodeFrom (index + n) (rest.drop due) with
        | .ok cs => .ok (charOf first (rest.take due) :: cs)
        | .error e => .error e
      -- More bytes could still have made a character of these.
      else if rest.length = present then .error (.incomplete index)
      else .error (.invalid (present + 1) index)
termination_by bytes => bytes.length
decreasing_by
  simp only [List.length_drop, List.length_cons]
  omega

/-- The text that bytes encode. -/
def decode (bytes : List UInt8) : Except Fault String :=
  (decodeFrom 0 bytes).map String.ofList

end ToolPolicy.Utf8
