import ToolPolicy.Text.PrintableTable
import ToolPolicy.Text.Digits

/-! Quoted text for messages: it shows what a reader cannot see by escapes. -/

namespace ToolPolicy.Quoted

/-- Whether a code lies in one of the ranges. -/
def within (ranges : List (Nat × Nat)) (code : Nat) : Bool :=
  ranges.any fun (first, last) => first ≤ code && code ≤ last

/-- The lower-case hexadecimal digits of a number. -/
def hex (n : Nat) : List Char :=
  if n < 16 then [Nat.digitChar n] else hex (n / 16) ++ [Nat.digitChar (n % 16)]

/-- A character by its code. -/
def codeEscape (c : Char) : List Char := ['\\', 'u', '{'] ++ hex c.toNat ++ ['}']

/-- Whether a character is shown by its code. -/
def isHidden (c : Char) : Bool :=
  within Printable.extendRanges c.toNat || within Printable.hiddenRanges c.toNat

/-- A character as it stands between the quotes. -/
def escape (c : Char) : List Char :=
  match c with
  | '\x00' => ['\\', '0']
  | '\t' => ['\\', 't']
  | '\r' => ['\\', 'r']
  | '\n' => ['\\', 'n']
  | '"' => ['\\', '"']
  | '\\' => ['\\', '\\']
  | c => if isHidden c then codeEscape c else [c]

/-- A text between double quotes. -/
def text (s : String) : String :=
  String.ofList ('"' :: s.toList.flatMap escape ++ ['"'])

end ToolPolicy.Quoted
