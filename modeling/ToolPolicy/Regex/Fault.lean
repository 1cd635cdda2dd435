import ToolPolicy.Regex.Span
import ToolPolicy.Text.Blank
import ToolPolicy.Text.Digits

/-! Why a pattern has no meaning, and how that is shown. -/

namespace ToolPolicy.Regex

/-- What is wrong with a pattern. -/
inductive Fault where
  | classEscapeInvalid
  | classRangeInvalid
  | classRangeLiteral
  | classUnclosed
  | decimalInvalid
  | escapeHexEmpty
  | escapeHexInvalid
  | escapeHexInvalidDigit
  | escapeUnexpectedEnd
  | escapeUnrecognized
  | flagDanglingNegation
  | flagDuplicate
  | flagRepeatedNegation
  | flagUnexpectedEnd
  | flagUnrecognized
  | groupNameDuplicate
  | groupNameEmpty
  | groupNameInvalid
  | groupNameUnexpectedEnd
  | groupUnclosed
  | groupUnopened
  | nestingTooDeep (limit : Nat)
  | repetitionCountInvalid
  | repetitionCountEmpty
  | repetitionCountUnclosed
  | repetitionMissing
  | wordBoundaryUnclosed
  | wordBoundaryUnrecognized
  | wordBoundaryUnexpectedEnd
  | propertyInvalid
  | unsupportedBackreference
  | unsupportedLookAround
  | unicodeNotAllowed
  | invalidUtf8
  | propertyNotFound
  | propertyValueNotFound
deriving DecidableEq, Repr

def Fault.text : Fault → String
  | classEscapeInvalid => "invalid escape sequence found in character class"
  | classRangeInvalid => "invalid character class range, the start must be <= the end"
  | classRangeLiteral => "invalid range boundary, must be a literal"
  | classUnclosed => "unclosed character class"
  | decimalInvalid => "decimal literal invalid"
  | escapeHexEmpty => "hexadecimal literal empty"
  | escapeHexInvalid => "hexadecimal literal is not a Unicode scalar value"
  | escapeHexInvalidDigit => "invalid hexadecimal digit"
  | escapeUnexpectedEnd => "incomplete escape sequence, reached end of pattern prematurely"
  | escapeUnrecognized => "unrecognized escape sequence"
  | flagDanglingNegation => "dangling flag negation operator"
  | flagDuplicate => "duplicate flag"
  | flagRepeatedNegation => "flag negation operator repeated"
  | flagUnexpectedEnd => "expected flag but got end of regex"
  | flagUnrecognized => "unrecognized flag"
  | groupNameDuplicate => "duplicate capture group name"
  | groupNameEmpty => "empty capture group name"
  | groupNameInvalid => "invalid capture group character"
  | groupNameUnexpectedEnd => "unclosed capture group name"
  | groupUnclosed => "unclosed group"
  | groupUnopened => "unopened group"
  | nestingTooDeep limit =>
    "exceed the maximum number of nested parentheses/brackets (" ++ Digits.nat limit ++ ")"
  | repetitionCountInvalid => "invalid repetition count range, the start must be <= the end"
  | repetitionCountEmpty => "repetition quantifier expects a valid decimal"
  | repetitionCountUnclosed => "unclosed counted repetition"
  | repetitionMissing => "repetition operator missing expression"
  | wordBoundaryUnclosed =>
    "special word boundary assertion is either unclosed or contains an invalid character"
  | wordBoundaryUnrecognized =>
    "unrecognized special word boundary assertion, valid choices are: start, end, start-half or " ++
      "end-half"
  | wordBoundaryUnexpectedEnd =>
    "found either the beginning of a special word boundary or a bounded repetition on a \\b " ++
      "with an opening brace, but no closing brace"
  | propertyInvalid => "invalid Unicode character class"
  | unsupportedBackreference => "backreferences are not supported"
  | unsupportedLookAround =>
    "look-around, including look-ahead and look-behind, is not supported"
  | unicodeNotAllowed => "Unicode not allowed here"
  | invalidUtf8 => "pattern can match invalid UTF-8"
  | propertyNotFound => "Unicode property not found"
  | propertyValueNotFound => "Unicode property value not found"

/-- A fault at a part of a pattern; where something was said twice, also with the earlier part. -/
structure Error where
  fault : Fault
  span : Span
  earlier : Option Span
deriving DecidableEq, Repr

/-- The result of a fault at a part. -/
def fail {α : Type} (fault : Fault) (span : Span) : Except Error α := .error ⟨fault, span, none⟩

namespace Error

/-- The parts to point at, in their order. -/
def spans (e : Error) : List Span :=
  match e.earlier with
  | none => [e.span]
  | some other => if other.isBefore e.span then [other, e.span] else [e.span, other]

/-- Carets under parts of a line, from a column on. An empty part has one caret too. -/
def carets (column : Nat) : List Span → List Char
  | [] => []
  | s :: rest =>
    let width := max 1 (s.past.column - s.first.column)
    List.replicate (s.first.column - column) ' ' ++ List.replicate width '^' ++
      carets (max column s.first.column + width) rest

/-- How many digits the numbers of the lines have; the line of a pattern that has only one has no
number. -/
def numberWidth (pattern : List Char) : Nat :=
  let count := (Blank.lines pattern).length + (if pattern.getLast? = some '\n' then 1 else 0)
  if count ≤ 1 then 0 else (Digits.ofNat count).length

/-- What stands before a line. -/
def lineHead (width number : Nat) : List Char :=
  if width = 0 then [' ', ' ', ' ', ' ']
  else
    let digits := Digits.ofNat number
    List.replicate (width - digits.length) ' ' ++ digits ++ [':', ' ']

/-- The lines from a number on, each with carets below it where there are parts to point at. -/
def notate (e : Error) (width number : Nat) : List (List Char) → List Char
  | [] => []
  | line :: rest =>
    let parts := e.spans.filter fun s => s.isOneLine && s.first.line == number
    let indent := if width = 0 then 4 else width + 2
    lineHead width number ++ line ++ ['\n'] ++
      (if parts.isEmpty then []
        else List.replicate indent ' ' ++ carets 1 parts ++ ['\n']) ++
      notate e width (number + 1) rest

/-- Where a part that has several lines begins and ends. -/
def extent (s : Span) : String :=
  "on line " ++ Digits.nat s.first.line ++ " (column " ++ Digits.nat s.first.column ++
    ") through line " ++ Digits.nat s.past.line ++ " (column " ++ Digits.nat (s.past.column - 1) ++
    ")\n"

/-- The pattern with the fault. A pattern of several lines stands between dividers. -/
def message (e : Error) (pattern : List Char) : String :=
  let notated := String.ofList (e.notate (numberWidth pattern) 1 (Blank.lines pattern))
  let shown :=
    if pattern.contains '\n' then
      let divider := String.ofList (List.replicate 79 '~') ++ "\n"
      divider ++ notated ++ divider ++
        String.join ((e.spans.filter (!·.isOneLine)).map extent)
    else notated
  "regex parse error:\n" ++ shown ++ "error: " ++ e.fault.text

end Error

end ToolPolicy.Regex
