import ToolPolicy.Text.Utf8

/-! Percent encoding. Each part of a URL has its own set of characters to encode; control characters
and what is not ASCII belong to all of them. -/

namespace ToolPolicy.Url.Percent

/-- The characters to encode in a fragment. -/
def fragmentChars : List Char := [' ', '"', '<', '>', '\x60']

/-- The characters to encode in a path. -/
def pathChars : List Char := fragmentChars ++ ['#', '?', '{', '}']

/-- The characters to encode in a name or a password. -/
def userChars : List Char := pathChars ++ ['/', ':', ';', '=', '@', '[', '\\', ']', '^', '|']

/-- The characters to encode in a query. -/
def queryChars : List Char := [' ', '"', '#', '<', '>', '\'']

/-- A hexadecimal digit in upper case. -/
def upperDigit (n : Nat) : Char := (Nat.digitChar n).toUpper

/-- A byte as it is encoded. -/
def byteText (b : UInt8) : List Char := ['%', upperDigit (b.toNat / 16), upperDigit (b.toNat % 16)]

/-- Whether a character is encoded everywhere. -/
def isUnsafe (c : Char) : Bool := c.toNat < 0x20 || 0x7f ≤ c.toNat

/-- A character as it stands in a part with a set of characters to encode. -/
def encodeChar (chars : List Char) (c : Char) : List Char :=
  if isUnsafe c || chars.contains c then (String.singleton c).toUTF8.toList.flatMap byteText
  else [c]

def encode (chars : List Char) (cs : List Char) : List Char := cs.flatMap (encodeChar chars)

/-- The value of a hexadecimal digit. -/
def digit? (c : Char) : Option Nat :=
  if c.isDigit then some (c.toNat - 48)
  else if 'a' ≤ c && c ≤ 'f' then some (c.toNat - 87)
  else if 'A' ≤ c && c ≤ 'F' then some (c.toNat - 55)
  else none

/-- The bytes of a text, with the encoded ones decoded. -/
def decode : List Char → List UInt8
  | [] => []
  | '%' :: a :: b :: rest =>
    match digit? a, digit? b with
    | some high, some low => UInt8.ofNat (high * 16 + low) :: decode rest
    | _, _ => 0x25 :: decode (a :: b :: rest)
  | c :: rest => (String.singleton c).toUTF8.toList ++ decode rest

end ToolPolicy.Url.Percent
