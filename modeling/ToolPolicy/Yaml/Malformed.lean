import ToolPolicy.Text.Digits

/-! Why a text is not YAML, and where. -/

namespace ToolPolicy.Yaml

/-- A place in a text. Lines and columns are counted from zero, in characters. -/
structure Mark where
  index : Nat
  line : Nat
  column : Nat
deriving DecidableEq, Repr, Inhabited

namespace Mark

/-- The place before the first character. -/
def start : Mark := ⟨0, 0, 0⟩

/-- The place some characters further in the line. -/
def advance (m : Mark) (n : Nat) : Mark := ⟨m.index + n, m.line, m.column + n⟩

/-- The start of the next line, a line break of so many characters further. -/
def nextLine (m : Mark) (n : Nat) : Mark := ⟨m.index + n, m.line + 1, 0⟩

/-- Whether the line and the column are the first ones. -/
def isFirst (m : Mark) : Bool := m.line == 0 && m.column == 0

/-- Whether two marks have the same line and column. -/
def samePlace (m n : Mark) : Bool := m.line == n.line && m.column == n.column

/-- The place as messages give it, counted from one. -/
def text (m : Mark) : String :=
  "line " ++ Digits.nat (m.line + 1) ++ " column " ++ Digits.nat (m.column + 1)

end Mark

/-- What is wrong with a text. -/
inductive Problem where
  | controlCharacter
  | cannotStartToken
  | expectedColon
  | entryNotAllowed
  | keyNotAllowed
  | valueNotAllowed
  | unexpectedColon
  | tabIndentation
  | tabForSpace
  | zeroIndentation
  | expectedLineEnd
  | unexpectedEnd
  | unexpectedDocument
  | unknownEscape
  | expectedHex
  | invalidCode
  | expectedName
  | unknownDirective
  | expectedDirectiveName
  | unexpectedInName
  | expectedVersion
  | expectedDigitOrDot
  | longVersion
  | expectedBlank
  | expectedBlankOrBreak
  | expectedBang
  | expectedAngle
  | expectedUri
  | expectedOctet
  | wrongLeadingOctet
  | wrongTrailingOctet
  | undefinedHandle
  | expectedNode
  | expectedEntry
  | expectedKey
  | expectedSequenceEnd
  | expectedMappingEnd
  | expectedDocument
  | duplicateVersion
  | incompatibleVersion
  | duplicateHandle
deriving DecidableEq, Repr

def Problem.text : Problem → String
  | controlCharacter => "control characters are not allowed"
  | cannotStartToken => "found character that cannot start any token"
  | expectedColon => "could not find expected ':'"
  | entryNotAllowed => "block sequence entries are not allowed in this context"
  | keyNotAllowed => "mapping keys are not allowed in this context"
  | valueNotAllowed => "mapping values are not allowed in this context"
  | unexpectedColon => "found unexpected ':'"
  | tabIndentation => "found a tab character that violates indentation"
  | tabForSpace => "found a tab character where an indentation space is expected"
  | zeroIndentation => "found an indentation indicator equal to 0"
  | expectedLineEnd => "did not find expected comment or line break"
  | unexpectedEnd => "found unexpected end of stream"
  | unexpectedDocument => "found unexpected document indicator"
  | unknownEscape => "found unknown escape character"
  | expectedHex => "did not find expected hexadecimal number"
  | invalidCode => "found invalid Unicode character escape code"
  | expectedName => "did not find expected alphabetic or numeric character"
  | unknownDirective => "found unknown directive name"
  | expectedDirectiveName => "could not find expected directive name"
  | unexpectedInName => "found unexpected non-alphabetical character"
  | expectedVersion => "did not find expected version number"
  | expectedDigitOrDot => "did not find expected digit or '.' character"
  | longVersion => "found extremely long version number"
  | expectedBlank => "did not find expected whitespace"
  | expectedBlankOrBreak => "did not find expected whitespace or line break"
  | expectedBang => "did not find expected '!'"
  | expectedAngle => "did not find the expected '>'"
  | expectedUri => "did not find expected tag URI"
  | expectedOctet => "did not find URI escaped octet"
  | wrongLeadingOctet => "found an incorrect leading UTF-8 octet"
  | wrongTrailingOctet => "found an incorrect trailing UTF-8 octet"
  | undefinedHandle => "found undefined tag handle"
  | expectedNode => "did not find expected node content"
  | expectedEntry => "did not find expected '-' indicator"
  | expectedKey => "did not find expected key"
  | expectedSequenceEnd => "did not find expected ',' or ']'"
  | expectedMappingEnd => "did not find expected ',' or '\x7d'"
  | expectedDocument => "did not find expected <document start>"
  | duplicateVersion => "found duplicate %YAML directive"
  | incompatibleVersion => "found incompatible YAML document"
  | duplicateHandle => "found duplicate %TAG directive"

/-- What was being read when a problem was found. -/
inductive Activity where
  | nextToken
  | simpleKey
  | plainScalar
  | blockScalar
  | quotedScalar
  | quotedEscape
  | anchor
  | alias
  | directive
  | versionDirective
  | tagDirective
  | tagDirectiveHandle
  | tagDirectiveShortHandle
  | tagDirectiveUri
  | tag
  | tagUri
  | node
  | blockNode
  | flowNode
  | blockCollection
  | blockMapping
  | flowSequence
  | flowMapping
deriving DecidableEq, Repr

def Activity.text : Activity → String
  | nextToken => "while scanning for the next token"
  | simpleKey => "while scanning a simple key"
  | plainScalar => "while scanning a plain scalar"
  | blockScalar => "while scanning a block scalar"
  | quotedScalar => "while scanning a quoted scalar"
  | quotedEscape => "while parsing a quoted scalar"
  | anchor => "while scanning an anchor"
  | .alias => "while scanning an alias"
  | directive => "while scanning a directive"
  | versionDirective => "while scanning a %YAML directive"
  | tagDirective => "while scanning a %TAG directive"
  | tagDirectiveHandle => "while scanning a tag directive"
  | tagDirectiveShortHandle => "while parsing a tag directive"
  | tagDirectiveUri => "while parsing a %TAG directive"
  | tag => "while scanning a tag"
  | tagUri => "while parsing a tag"
  | node => "while parsing a node"
  | blockNode => "while parsing a block node"
  | flowNode => "while parsing a flow node"
  | blockCollection => "while parsing a block collection"
  | blockMapping => "while parsing a block mapping"
  | flowSequence => "while parsing a flow sequence"
  | flowMapping => "while parsing a flow mapping"

/-- A problem with its place, and what was being read since which place. -/
structure Malformed where
  problem : Problem
  mark : Mark
  /-- The bytes before a character that may not stand in a text. -/
  offset : Nat
  context : Option (Activity × Mark)
deriving DecidableEq, Repr

namespace Malformed

/-- A problem at a place while something was being read. -/
def within (problem : Problem) (mark : Mark) (activity : Activity) (since : Mark) : Malformed :=
  ⟨problem, mark, 0, some (activity, since)⟩

/-- A problem at a place. -/
def here (problem : Problem) (mark : Mark) : Malformed := ⟨problem, mark, 0, none⟩

/-- Where the problem is, unless that is the very start. -/
def placeText (e : Malformed) : String :=
  if !e.mark.isFirst then " at " ++ e.mark.text
  else if e.offset ≠ 0 then " at position " ++ Digits.nat e.offset
  else ""

/-- What was being read; a place is given only where it is neither the start nor the problem's. -/
def contextText (e : Malformed) : String :=
  match e.context with
  | none => ""
  | some (activity, since) =>
    ", " ++ activity.text ++
      (if since.isFirst || since.samePlace e.mark then "" else " at " ++ since.text)

def message (e : Malformed) : String := e.problem.text ++ e.placeText ++ e.contextText

end Malformed

end ToolPolicy.Yaml
