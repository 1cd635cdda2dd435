import ToolPolicy.Regex.Span

/-! Patterns as they are written. -/

namespace ToolPolicy.Regex

/-- A character of a pattern. One that is written as a byte, by two digits, may stand for a part of
a character where patterns are over bytes. -/
structure Literal where
  span : Span
  char : Char
  isByte : Bool
deriving DecidableEq, Repr

/-- A condition on a position. -/
inductive Assertion where
  | startLine
  | endLine
  | startText
  | endText
  | wordBoundary
  | notWordBoundary
  | wordStart
  | wordEnd
  | wordStartHalf
  | wordEndHalf
deriving DecidableEq, Repr

/-- The classes that have letters as escapes. -/
inductive ShortClass where
  | digit
  | space
  | word
deriving DecidableEq, Repr

/-- How a property is asked for. -/
inductive Query where
  | named (name : String)
  | valued (name value : String)
deriving DecidableEq, Repr

/-- The classes that have names in brackets. -/
inductive AsciiClass where
  | alnum
  | alpha
  | ascii
  | blank
  | cntrl
  | digit
  | graph
  | lower
  | print
  | punct
  | space
  | upper
  | word
  | xdigit
deriving DecidableEq, Repr

/-- What has no parts. -/
inductive Atom where
  | literal (l : Literal)
  | dot (span : Span)
  | assertion (span : Span) (kind : Assertion)
  | short (span : Span) (negated : Bool) (kind : ShortClass)
  | property (span : Span) (negated : Bool) (query : Query)
deriving DecidableEq, Repr

def Atom.span : Atom → Span
  | literal l => l.span
  | dot span | assertion span _ | short span _ _ | property span _ _ => span

/-- The operations on classes. -/
inductive ClassOperation where
  | intersection
  | difference
  | symmetricDifference
deriving DecidableEq, Repr

/-- A class of characters. -/
inductive CharClass where
  | empty (span : Span)
  | literal (l : Literal)
  | range (span : Span) (first last : Literal)
  | ascii (span : Span) (negated : Bool) (kind : AsciiClass)
  | short (span : Span) (negated : Bool) (kind : ShortClass)
  | property (span : Span) (negated : Bool) (query : Query)
  | bracketed (span : Span) (negated : Bool) (inner : CharClass)
  | union (span : Span) (items : List CharClass)
  | operation (span : Span) (kind : ClassOperation) (lhs rhs : CharClass)

def CharClass.span : CharClass → Span
  | literal l => l.span
  | empty span | range span _ _ | ascii span _ _ | short span _ _ | property span _ _
  | bracketed span _ _ | union span _ | operation span _ _ _ => span

/-- The switches of a pattern. -/
inductive Flag where
  | ignoreCase
  | multiLine
  | dotMatchesAll
  | swapGreed
  | unicode
  | crlf
  | ignoreBlanks
deriving DecidableEq, Repr

/-- A switch, or the sign that those after it are turned off. -/
inductive FlagItem where
  | negation
  | flag (f : Flag)
deriving DecidableEq, Repr

namespace FlagItem

/-- The states that items give to flags, in order. -/
def settings : Bool → List FlagItem → List (Flag × Bool)
  | _, [] => []
  | _, negation :: rest => settings false rest
  | state, flag f :: rest => (f, state) :: settings state rest

/-- The state that items give to a flag. -/
def state? (items : List FlagItem) (f : Flag) : Option Bool := (settings true items).lookup f

end FlagItem

/-- Whether a group is counted, or else the switches that hold in it. -/
inductive GroupKind where
  | capture
  | plain (items : List FlagItem)
deriving DecidableEq, Repr

/-- A pattern. -/
inductive Pattern where
  | empty (span : Span)
  | flags (span : Span) (items : List FlagItem)
  | atom (a : Atom)
  | charClass (c : CharClass)
  | repetition (span : Span) (least : Nat) (most : Option Nat) (sub : Pattern)
  | group (span : Span) (kind : GroupKind) (sub : Pattern)
  | alternation (span : Span) (branches : List Pattern)
  | concat (span : Span) (items : List Pattern)

namespace Pattern

def span : Pattern → Span
  | atom a => a.span
  | charClass c => c.span
  | empty span | flags span _ | repetition span _ _ _ | group span _ _ | alternation span _
  | concat span _ => span

/-- Whether there is something to repeat. -/
def isRepeatable : Pattern → Bool
  | empty _ | flags _ _ => false
  | _ => true

/-- The pattern of items one after the other. -/
def ofItems (span : Span) : List Pattern → Pattern
  | [] => empty span
  | [item] => item
  | items => concat span items

end Pattern

end ToolPolicy.Regex
