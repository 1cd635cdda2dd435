import ToolPolicy.Yaml.Char
import ToolPolicy.Yaml.Resolve

/-! Which style a text takes as a scalar: plain where it reads back as the same text, else quotes or
a literal block. -/

namespace ToolPolicy.Yaml

/-- How a scalar is written. -/
inductive Style where
  | plain
  | singleQuoted
  | doubleQuoted
  | literal
deriving DecidableEq, Repr

/-- A character with whether it is the first one and what stands around it. -/
structure Neighbourhood where
  isFirst : Bool
  before : Option Char
  char : Char
  after : Option Char

/-- The characters of a text, each in its place. -/
def neighbourhoods (before : Option Char) : List Char → List Neighbourhood
  | [] => []
  | c :: rest => ⟨before.isNone, before, c, rest.head?⟩ :: neighbourhoods (some c) rest

/-- The end of a text counts as blank space. -/
def isSpaceOrEnd (c : Option Char) : Bool :=
  match c with
  | none => true
  | some c => isBlank c || isBreak c

/-- The characters that mean something at the start of a scalar. -/
def startIndicators : List Char :=
  ['#', ',', '[', ']', '{', '}', '&', '*', '!', '|', '>', '\'', '"', '%', '@', '\x60']

/-- Whether a character would be read as structure outside of flow collections. -/
def isIndicator (n : Neighbourhood) : Bool :=
  if n.isFirst then
    startIndicators.contains n.char ||
      ((n.char == '?' || n.char == ':' || n.char == '-') && isSpaceOrEnd n.after)
  else
    (n.char == ':' && isSpaceOrEnd n.after) || (n.char == '#' && isSpaceOrEnd n.before)

/-- Whether a text starts like a document marker. -/
def startsLikeMarker (cs : List Char) : Bool :=
  cs.take 3 == ['-', '-', '-'] || cs.take 3 == ['.', '.', '.']

/-- Whether some blank stands right before a line break. -/
def hasBlankBeforeBreak : List Char → Bool
  | a :: b :: rest => (a == ' ' && isBreak b) || hasBlankBeforeBreak (b :: rest)
  | _ => false

/-- Whether some blank stands right after a line break. -/
def hasBlankAfterBreak : List Char → Bool
  | a :: b :: rest => (isBreak a && b == ' ') || hasBlankAfterBreak (b :: rest)
  | _ => false

/-- Whether a character is a blank or ends a line. -/
def isSpaceOrBreak (c : Char) : Bool := c == ' ' || isBreak c

/-- Whether a text may be written plain in block style. -/
def allowsPlain (cs : List Char) : Bool :=
  cs.all isPrintable && !cs.any isBreak && !startsLikeMarker cs &&
    !(cs.head?.any isSpaceOrBreak) && !(cs.getLast?.any isSpaceOrBreak) &&
    !(neighbourhoods none cs).any isIndicator

/-- Whether a text may be written between single quotes. -/
def allowsSingleQuoted (cs : List Char) : Bool :=
  cs.all isPrintable && !hasBlankBeforeBreak cs && !hasBlankAfterBreak cs

/-- Whether a text may be written as a literal block. -/
def allowsLiteral (cs : List Char) : Bool :=
  !cs.isEmpty && cs.all isPrintable && !hasBlankBeforeBreak cs && cs.getLast? != some ' '

/-- The style that a text asks for: a literal block for several lines, and quotes for a text that
would be read as something else. -/
def wantedStyle (cs : List Char) : Style :=
  if cs.contains '\n' then .literal
  -- Digits with a leading zero are quoted although they would read back as a text.
  else if resolve cs = .string && !hasLeadingZero cs then .plain
  else .singleQuoted

/-- The style that a text takes. Within a line a literal block is not possible. -/
def style (withinLine : Bool) (cs : List Char) : Style :=
  if withinLine && cs.any isBreak then .doubleQuoted
  else
    match wantedStyle cs with
    | .literal => if allowsLiteral cs && !withinLine then .literal else .doubleQuoted
    | .plain =>
      if allowsPlain cs then .plain
      else if allowsSingleQuoted cs then .singleQuoted
      else .doubleQuoted
    | _ => if allowsSingleQuoted cs then .singleQuoted else .doubleQuoted

end ToolPolicy.Yaml
