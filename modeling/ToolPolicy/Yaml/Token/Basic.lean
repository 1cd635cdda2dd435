import ToolPolicy.Yaml.Char
import ToolPolicy.Yaml.Malformed

/-! The tokens of YAML texts, and the place that reading has come to. -/

namespace ToolPolicy.Yaml

/-- How a scalar is set out in the text that is read. -/
inductive Presentation where
  | plain
  | quoted
  | block
deriving DecidableEq, Repr

/-- What a token is. -/
inductive Token.Kind where
  | streamStart
  | streamEnd
  | versionDirective (major minor : Nat)
  | tagDirective (handle uri : String)
  | documentStart
  | documentEnd
  | blockSequenceStart
  | blockMappingStart
  | blockEnd
  | flowSequenceStart
  | flowSequenceEnd
  | flowMappingStart
  | flowMappingEnd
  | blockEntry
  | flowEntry
  | key
  | value
  | alias (name : String)
  | anchor (name : String)
  | tag (handle suffix : String)
  | scalar (text : String) (presentation : Presentation)
deriving DecidableEq, Repr

/-- A token with the places where it starts and ends. -/
structure Token where
  kind : Token.Kind
  start : Mark
  finish : Mark
deriving DecidableEq, Repr

/-- The text that is left, and the place where it starts. -/
structure Cursor where
  rest : List Char
  mark : Mark
deriving Repr

namespace Cursor

/-- The next character. -/
def peek (c : Cursor) : Option Char := c.rest.head?

/-- The character some places further. -/
def peekAt (c : Cursor) (n : Nat) : Option Char := c.rest[n]?

/-- Whether the next character is the given one. -/
def isAt (c : Cursor) (ch : Char) : Bool := c.peek == some ch

/-- Goes over characters of a line. -/
def skip (c : Cursor) (n : Nat) : Cursor :=
  ⟨c.rest.drop n, c.mark.advance (c.rest.take n).length⟩

/-- Goes over one line break; a carriage return and a line feed are one. -/
def skipBreak (c : Cursor) : Cursor :=
  match c.rest with
  | '\r' :: '\n' :: rest => ⟨rest, c.mark.nextLine 2⟩
  | b :: rest => if isBreak b then ⟨rest, c.mark.nextLine 1⟩ else c
  | [] => c

/-- The line break that comes next, as the text of a scalar has it. -/
def lineBreak (c : Cursor) : List Char :=
  match c.rest with
  | [] => []
  | b :: _ =>
    if b == '\u2028' || b == '\u2029' then [b] else if isBreak b then ['\n'] else []

/-- The characters up to the first that fails the test, and what follows. They are of one line. -/
def span (c : Cursor) (test : Char → Bool) : List Char × Cursor :=
  let taken := c.rest.takeWhile test
  (taken, ⟨c.rest.drop taken.length, c.mark.advance taken.length⟩)

/-- Goes over the characters up to the first that fails the test. -/
def skipWhile (c : Cursor) (test : Char → Bool) : Cursor := (c.span test).2

end Cursor

/-- Whether a line ends before a character, or the text does. -/
def endsLine : Option Char → Bool
  | none => true
  | some c => isBreak c

/-- Whether a word ends before a character, or the text does. -/
def endsWord : Option Char → Bool
  | none => true
  | some c => isBlank c || isBreak c

/-- The characters of names. -/
def isNameChar (c : Char) : Bool := c.isAlphanum || c == '_' || c == '-'

/-- Whether a document marker made of the character comes next, at the start of a line. -/
def Cursor.isAtMarker (c : Cursor) (ch : Char) : Bool :=
  c.mark.column == 0 && c.rest.take 3 == [ch, ch, ch] && endsWord (c.peekAt 3)

/-- Whether any document marker comes next. -/
def Cursor.isAtAnyMarker (c : Cursor) : Bool := c.isAtMarker '-' || c.isAtMarker '.'

/-- A value and the cursor after it. -/
abbrev Scan (α : Type) := Except Malformed (α × Cursor)

end ToolPolicy.Yaml
