import ToolPolicy.Regex.Bracketed
import ToolPolicy.Text.LetterTable

/-! Reading patterns. -/

namespace ToolPolicy.Regex

/-- The greatest count of a repetition. -/
def maxCount : Nat := 0xffffffff

/-- The decimal digits that come next. -/
def decimalDigits (c : Cursor) : List Char × Cursor :=
  if h : c.rest = [] then ([], c)
  else
    let d := c.rest.head h
    if d.isDigit then
      let (digits, last) := decimalDigits c.advance
      (d :: digits, last)
    else ([], c)
termination_by c.rest.length
decreasing_by exact Cursor.advance_length_lt h

/-- Passes over white space, and over what does not count after it. -/
def skipSpace (c : Cursor) : Cursor :=
  if h : c.rest = [] then c
  else if Blank.isBlank (c.rest.head h) then skipSpace c.advance
  else c
termination_by c.rest.length
decreasing_by exact Cursor.advance_length_lt h

/-- Passes over white space. -/
def skipPlainSpace (c : Cursor) : Cursor := c.drop (c.rest.takeWhile Blank.isBlank).length

/-- Reads a count. What comes after it is left also where there is none. -/
def count (c : Cursor) : Except Error Nat × Cursor :=
  let c := skipPlainSpace c
  let (digits, last) := decimalDigits c
  let value := Digits.toNat digits
  (if digits.isEmpty then fail .repetitionCountEmpty (last.since c.place)
    else if maxCount < value then fail .decimalInvalid (last.since c.place)
    else .ok value,
    skipSpace last)

/-- A cursor after the sign that a repetition takes as little as it can. -/
def skipReluctance (c : Cursor) : Cursor := if c.char? = some '?' then c.next else c

/-- Reads the counts between the braces of a repetition up to the closing one: the least and, where
there is one, the greatest. -/
def countRange (start : Place) (c : Cursor) : Except Error ((Nat × Option Nat) × Cursor) :=
  let unclosed {α : Type} (c : Cursor) : Except Error α :=
    fail .repetitionCountUnclosed (c.since start)
  if c.isAtEnd then unclosed c
  else
    let (least, atSign) := count c
    if atSign.isAtEnd then unclosed atSign
    else if atSign.char? = some ',' then
      let second := atSign.advance
      if second.isAtEnd then unclosed second
      else do
        -- A fault of the first count comes up only once it is seen that the text goes on.
        let n ← least
        if second.char? = some '}' then return ((n, none), second)
        else
          let (most, atEnd) := count second
          return ((n, some (← most)), atEnd)
    else do
      let n ← least
      return ((n, some n), atSign)

/-- Reads the counts of a repetition, whose opening brace comes next. -/
def counts (c : Cursor) : Except Error ((Nat × Option Nat) × Cursor) := do
  let (range, atEnd) ← countRange c.place c.advance
  if atEnd.char? ≠ some '}' then fail .repetitionCountUnclosed (atEnd.since c.place)
  else
    let after := skipReluctance atEnd.advance
    if range.2.any (· < range.1) then fail .repetitionCountInvalid (after.since c.place)
    else return (range, after)

/-- Reads the sign of a repetition, which comes next. -/
def repetitionSign (c : Cursor) : Except Error ((Nat × Option Nat) × Cursor) :=
  match c.char? with
  | some '?' => .ok ((0, some 1), skipReluctance c.next)
  | some '*' => .ok ((0, none), skipReluctance c.next)
  | some '+' => .ok ((1, none), skipReluctance c.next)
  | _ => counts c

/-- Whether the name of a group may have a character. -/
def isNameChar (isFirst : Bool) (c : Char) : Bool :=
  if isFirst then c == '_' || Letter.isLetter c
  else ['_', '.', '[', ']'].contains c || Letter.isLetter c || Letter.isNumeral c

/-- The part that the character after a number of others takes. -/
def Cursor.charSpanAt (c : Cursor) (index : Nat) : Span := (c.drop index).charSpan

/-- Reads the name of a group up to the angle bracket after it. -/
def groupName (c : Cursor) : Except Error Cursor :=
  let name := c.rest.takeWhile (· != '>')
  let misfit := name.zipIdx.find? fun (d, i) => !isNameChar (i == 0) d
  -- The characters are judged before it is seen whether the name ends.
  match misfit with
  | some (_, i) => fail .groupNameInvalid (c.charSpanAt i)
  | none =>
    let atEnd := c.drop name.length
    if atEnd.isAtEnd then fail .groupNameUnexpectedEnd atEnd.here
    else if name.isEmpty then fail .groupNameEmpty c.here
    else
      let text := String.ofList name
      let span := atEnd.since c.place
      match c.names.lookup text with
      | some earlier => .error ⟨.groupNameDuplicate, span, some earlier⟩
      | none => .ok { atEnd.next with names := (text, span) :: c.names }

/-- The switch with a letter. -/
def flag? : Char → Option Flag
  | 'i' => some .ignoreCase
  | 'm' => some .multiLine
  | 's' => some .dotMatchesAll
  | 'U' => some .swapGreed
  | 'u' => some .unicode
  | 'R' => some .crlf
  | 'x' => some .ignoreBlanks
  | _ => none

/-- Reads switches up to a colon or a closing parenthesis, given those that were read. -/
def flagItems (known : List (FlagItem × Span)) : List Char → Cursor →
    Except Error (List FlagItem × Cursor)
  | [], c => fail .flagUnexpectedEnd c.here
  | d :: rest, c =>
    if d = ':' ∨ d = ')' then
      match known with
      | (.negation, span) :: _ => fail .flagDanglingNegation span
      | _ => .ok ((known.map Prod.fst).reverse, c)
    else do
      let item ←
        if d = '-' then .ok FlagItem.negation
        else match flag? d with
          | some f => .ok (.flag f)
          | none => fail .flagUnrecognized c.charSpan
      match known.lookup item with
      | some earlier =>
        let fault := if d = '-' then Fault.flagRepeatedNegation else .flagDuplicate
        .error ⟨fault, c.charSpan, some earlier⟩
      | none => flagItems ((item, c.charSpan) :: known) rest c.next

/-- What an opening parenthesis begins. -/
inductive GroupHead where
  | switches (items : List FlagItem)
  | group (kind : GroupKind)

/-- Reads what follows an opening parenthesis, which comes next. -/
def groupHead (c : Cursor) : Except Error (GroupHead × Cursor) :=
  let opened := c.charSpan
  let inner := c.advance
  -- These come before named groups, which begin with the same signs.
  let around := [['?', '='], ['?', '!'], ['?', '<', '='], ['?', '<', '!']].findSome? inner.take?
  match around with
  | some after => fail .unsupportedLookAround (after.since c.place)
  | none =>
    match (inner.take? ['?', 'P', '<']).or (inner.take? ['?', '<']) with
    | some named => do
      if named.isAtEnd then fail .groupNameUnexpectedEnd named.here
      else return (.group .capture, ← groupName named)
    | none =>
      match inner.take? ['?'] with
      | none => .ok (.group .capture, inner)
      | some flags => do
        if flags.isAtEnd then fail .groupUnclosed opened
        else
          let (items, atEnd) ← flagItems [] flags.rest flags
          if atEnd.char? = some ')' then
            -- Without switches the question mark is read as a sign that has nothing to repeat.
            if items.isEmpty then fail .repetitionMissing inner.here
            else return (.switches items, atEnd.next)
          else return (.group (.plain items), atEnd.next)

/-- The state of the switch for blanks after items. -/
def Cursor.withItems (c : Cursor) (items : List FlagItem) : Cursor :=
  { c with ignoresBlanks := (FlagItem.state? items .ignoreBlanks).getD c.ignoresBlanks }

/-- The alternatives that were read, with where they and the last of them begin. -/
structure Branches where
  start : Place
  done : List Pattern
  branchStart : Place
  items : List Pattern

namespace Branches

/-- Nothing at a place. -/
def none (p : Place) : Branches := ⟨p, [], p, []⟩

/-- Adds an item to the last alternative. -/
def push (b : Branches) (item : Pattern) : Branches := { b with items := b.items ++ [item] }

/-- The last alternative, if it ends at a place. -/
def branch (b : Branches) (p : Place) : Pattern := .ofItems ⟨b.branchStart, p⟩ b.items

/-- Ends the last alternative at a place and begins another one. -/
def split (b : Branches) (c : Cursor) : Branches :=
  ⟨b.start, b.done ++ [b.branch c.place], c.next.place, []⟩

/-- The pattern, if it ends at a place. -/
def close (b : Branches) (p : Place) : Pattern :=
  if b.done.isEmpty then b.branch p else .alternation ⟨b.start, p⟩ (b.done ++ [b.branch p])

/-- Repeats the last item; a sign of repetition comes next. -/
def repeatLast (b : Branches) (c : Cursor) : Except Error (Branches × Cursor) :=
  match b.items.getLast? with
  | some item =>
    -- Switches are items too, and cannot be repeated.
    if item.isRepeatable then do
      let ((least, most), after) ← repetitionSign c
      let repeated := Pattern.repetition ⟨item.span.first, after.place⟩ least most item
      return ({ b with items := b.items.dropLast ++ [repeated] }, after)
    else fail .repetitionMissing c.here
  | .none => fail .repetitionMissing c.here

end Branches

/-- Reads what has no parts. -/
def atom (c : Cursor) : Except Error (Atom × Cursor) :=
  let after := c.next
  match c.char? with
  | some '\\' => escape c
  | some '.' => .ok (.dot c.charSpan, after)
  | some '^' => .ok (.assertion c.charSpan .startLine, after)
  | some '$' => .ok (.assertion c.charSpan .endLine, after)
  | some d => .ok (.literal ⟨c.charSpan, d, false⟩, after)
  | none => fail .escapeUnexpectedEnd c.here

/-- Reads alternatives up to a closing parenthesis or the end. The fuel is more than the characters
left. -/
def branches : Nat → Branches → Cursor → Except Error (Pattern × Cursor)
  | 0, b, c => .ok (b.close c.place, c)
  | fuel + 1, b, c =>
    let c := c.skipBlanks
    match c.char? with
    | none | some ')' => .ok (b.close c.place, c)
    | some '(' => do
      let (head, inner) ← groupHead c
      match head with
      | .switches items =>
        branches fuel (b.push (.flags (inner.since c.place) items)) (inner.withItems items)
      | .group kind =>
        let items := match kind with
          | .capture => []
          | .plain items => items
        let inner := inner.withItems items
        let (sub, atEnd) ← branches fuel (.none inner.place) inner
        if atEnd.isAtEnd then fail .groupUnclosed c.charSpan
        else
          -- What a group switches ends with it; its names stay known.
          let after := { atEnd.next with ignoresBlanks := c.ignoresBlanks }
          branches fuel (b.push (.group (after.since c.place) kind sub)) after
    | some '|' => branches fuel (b.split c) c.next
    | some '[' => do
      let (members, after) ← bracketed (c.rest.length + 1) c
      branches fuel (b.push (.charClass members)) after
    | some d => do
      if ['?', '*', '+', '{'].contains d then
        let (b, after) ← b.repeatLast c
        branches fuel b after
      else
        let (a, after) ← atom c
        branches fuel (b.push (.atom a)) after

/-- Reads a whole pattern. -/
def Pattern.parse (pattern : List Char) : Except Error Pattern := do
  let start := Cursor.ofPattern pattern
  let (result, atEnd) ← branches (pattern.length + 1) (.none start.place) start
  if atEnd.isAtEnd then return result else fail .groupUnopened atEnd.charSpan

end ToolPolicy.Regex
