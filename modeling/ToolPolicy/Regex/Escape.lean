import ToolPolicy.Regex.Cursor
import ToolPolicy.Regex.Pattern
import ToolPolicy.Text.Digits

/-! Reading the parts of a pattern that begin with a backslash. -/

namespace ToolPolicy.Regex

/-- The characters that have a meaning of their own in patterns. -/
def isMeta (c : Char) : Bool := "\\.+*?()|[]\x7b\x7d^$#&-~".toList.contains c

/-- The characters that stand for themselves after a backslash: what is ASCII, but for letters,
digits and angle brackets. -/
def isEscapable (c : Char) : Bool :=
  isMeta c || (c.toNat < 0x80 && !c.isAlphanum && c != '<' && c != '>')

/-- The value of a hexadecimal digit. -/
def hexValue? (c : Char) : Option Nat :=
  if c.isDigit then some (c.toNat - 48)
  else if 'a' ≤ c && c ≤ 'f' then some (c.toNat - 87)
  else if 'A' ≤ c && c ≤ 'F' then some (c.toNat - 55)
  else none

/-- The character with a code. -/
def charOfCode? (code : Nat) : Option Char :=
  if h : code.isValidChar then some (Char.ofNatAux code h) else none

/-- The character whose code has the digits. -/
def charOfHex? (digits : List Char) : Option Char :=
  charOfCode? (digits.foldl (fun n d => n * 16 + (hexValue? d).getD 0) 0)

/-- Reads a number of hexadecimal digits. -/
def hexDigits (c : Cursor) : Nat → Except Error (List Char × Cursor)
  | 0 => .ok ([], c)
  | n + 1 =>
    match c.char? with
    | none => fail .escapeUnexpectedEnd c.here
    | some d =>
      if (hexValue? d).isSome then
        (hexDigits c.advance n).map fun (digits, c) => (d :: digits, c)
      else fail .escapeHexInvalidDigit c.charSpan

/-- The characters before a closing brace, with their places. -/
def beforeBrace (c : Cursor) : List (Char × Span) × Cursor :=
  if h : c.rest = [] then ([], c)
  else
    let d := c.rest.head h
    if d = '}' then ([], c)
    else
      let (found, last) := beforeBrace c.advance
      ((d, c.charSpan) :: found, last)
termination_by c.rest.length
decreasing_by exact Cursor.advance_length_lt h

/-- Reads a code between braces; the opening one comes next. -/
def hexInBraces (c : Cursor) : Except Error (Literal × Cursor) :=
  let (digits, atEnd) := beforeBrace c.advance
  match digits.find? fun (d, _) => (hexValue? d).isNone with
  | some (_, span) => fail .escapeHexInvalidDigit span
  | none =>
    if atEnd.isAtEnd then fail .escapeUnexpectedEnd (atEnd.since c.place)
    else
      let after := atEnd.advance
      if digits.isEmpty then fail .escapeHexEmpty (after.since c.place)
      else
        let start := c.next.place
        match charOfHex? (digits.map Prod.fst) with
        | none => fail .escapeHexInvalid (atEnd.since start)
        | some char => .ok (⟨after.since start, char, false⟩, after)

/-- Reads a code of a number of digits, or of any number of them between braces. -/
def hexEscape (width : Nat) (c : Cursor) : Except Error (Literal × Cursor) :=
  let c := c.advance
  match c.char? with
  | none => fail .escapeUnexpectedEnd c.here
  | some '{' => hexInBraces c
  | some _ => do
    let (digits, after) ← hexDigits c width
    match charOfHex? digits with
    | none => fail .escapeHexInvalid (after.since c.place)
    | some char => return (⟨after.since c.place, char, width == 2⟩, after)

/-- A text split at the first place where another one stands. -/
def splitAt? (separator : List Char) : List Char → Option (List Char × List Char)
  | [] => none
  | c :: rest =>
    if separator.isPrefixOf (c :: rest) then some ([], (c :: rest).drop separator.length)
    else (splitAt? separator rest).map fun (before, after) => (c :: before, after)

/-- The question that a text asks: for a property by its name, or for one of its values. -/
def Query.ofChars (cs : List Char) : Query :=
  match ((splitAt? ['!', '='] cs).or (splitAt? [':'] cs)).or (splitAt? ['='] cs) with
  | some (name, value) => .valued (String.ofList name) (String.ofList value)
  | none => .named (String.ofList cs)

/-- Reads a property; its letter comes next. -/
def propertyEscape (start : Place) (c : Cursor) : Except Error (Atom × Cursor) :=
  let negated := c.char? == some 'P'
  let c := c.advance
  match c.char? with
  | none => fail .escapeUnexpectedEnd c.here
  | some '{' =>
    let (name, atEnd) := beforeBrace c.advance
    if atEnd.isAtEnd then fail .escapeUnexpectedEnd atEnd.here
    else
      let after := atEnd.next
      .ok (.property (after.since start) negated (Query.ofChars (name.map Prod.fst)), after)
  | some '\\' => fail .propertyInvalid c.charSpan
  | some d =>
    let after := c.advance
    .ok (.property (after.since start) negated (.named (String.ofList [d])), after)

/-- The characters that the name of a word boundary may have. -/
def isBoundaryChar (c : Char) : Bool := c.isAlpha || c == '-'

/-- The longest run of characters of such names. -/
def boundaryName (c : Cursor) : List Char × Cursor :=
  if h : c.rest = [] then ([], c)
  else
    let d := c.rest.head h
    if isBoundaryChar d then
      let (name, last) := boundaryName c.advance
      (d :: name, last)
    else ([], c)
termination_by c.rest.length
decreasing_by exact Cursor.advance_length_lt h

/-- The word boundary of a name. -/
def boundary? (name : List Char) : Option Assertion :=
  match String.ofList name with
  | "start" => some .wordStart
  | "end" => some .wordEnd
  | "start-half" => some .wordStartHalf
  | "end-half" => some .wordEndHalf
  | _ => none

/-- Reads what may follow the escape of a word boundary: its name between braces. Braces that hold
something else are a repetition. -/
def wordBoundary (start : Place) (c : Cursor) : Except Error (Atom × Cursor) :=
  let plain := (Atom.assertion (c.since start) .wordBoundary, c)
  if c.char? = some '{' then
    let inner := c.advance
    match inner.char? with
    | none => fail .wordBoundaryUnexpectedEnd (inner.since start)
    | some d =>
      if isBoundaryChar d then
        let (name, atEnd) := boundaryName inner
        if atEnd.char? = some '}' then
          match boundary? name with
          | some kind => .ok (.assertion (atEnd.next.since start) kind, atEnd.next)
          | none => fail .wordBoundaryUnrecognized (atEnd.since inner.place)
        else fail .wordBoundaryUnclosed (atEnd.since c.place)
      else .ok plain
  else .ok plain

/-- The characters that have letters as escapes. -/
def namedChar? : Char → Option Char
  | 'a' => some '\x07'
  | 'f' => some '\x0c'
  | 't' => some '\t'
  | 'n' => some '\n'
  | 'r' => some '\r'
  | 'v' => some '\x0b'
  | _ => none

/-- The assertions that have a single character as escape. -/
def namedAssertion? : Char → Option Assertion
  | 'A' => some .startText
  | 'z' => some .endText
  | 'B' => some .notWordBoundary
  | '<' => some .wordStart
  | '>' => some .wordEnd
  | _ => none

/-- The classes that have letters as escapes; a capital letter negates. -/
def namedClass? : Char → Option (Bool × ShortClass)
  | 'd' => some (false, .digit)
  | 's' => some (false, .space)
  | 'w' => some (false, .word)
  | 'D' => some (true, .digit)
  | 'S' => some (true, .space)
  | 'W' => some (true, .word)
  | _ => none

/-- Reads what begins with a backslash, which comes next. -/
def escape (c : Cursor) : Except Error (Atom × Cursor) :=
  let start := c.place
  let c := c.next
  let after := c.next
  let span := after.since start
  let hex (width : Nat) : Except Error (Atom × Cursor) :=
    (hexEscape width c).map fun (l, after) =>
      (.literal { l with span := ⟨start, l.span.past⟩ }, after)
  match c.char? with
  | none => fail .escapeUnexpectedEnd (c.since start)
  | some 'x' => hex 2
  | some 'u' => hex 4
  | some 'U' => hex 8
  | some 'p' | some 'P' => propertyEscape start c
  | some 'b' => wordBoundary start after
  | some d =>
    if d.isDigit then fail .unsupportedBackreference span
    else if isEscapable d then .ok (.literal ⟨span, d, false⟩, after)
    else
      match namedClass? d, namedChar? d, namedAssertion? d with
      | some (negated, kind), _, _ => .ok (.short span negated kind, after)
      | _, some char, _ => .ok (.literal ⟨span, char, false⟩, after)
      | _, _, some kind => .ok (.assertion span kind, after)
      | _, _, _ => fail .escapeUnrecognized span

end ToolPolicy.Regex
