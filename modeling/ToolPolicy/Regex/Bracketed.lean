import ToolPolicy.Regex.Escape

/-! Reading classes of characters in brackets. -/

namespace ToolPolicy.Regex

/-- The class with a name. -/
def AsciiClass.ofName? (name : List Char) : Option AsciiClass :=
  match String.ofList name with
  | "alnum" => some alnum
  | "alpha" => some alpha
  | "ascii" => some ascii
  | "blank" => some blank
  | "cntrl" => some cntrl
  | "digit" => some digit
  | "graph" => some graph
  | "lower" => some lower
  | "print" => some print
  | "punct" => some punct
  | "space" => some space
  | "upper" => some upper
  | "word" => some word
  | "xdigit" => some xdigit
  | _ => none

/-- Passes over a number of characters. -/
def Cursor.drop (c : Cursor) (count : Nat) : Cursor :=
  (List.range count).foldl (fun c _ => c.next) c

/-- Reads a named class such as `[:alpha:]`; what only looks like one is none. -/
def namedClass (c : Cursor) : Option (CharClass × Cursor) :=
  (c.take? ['[', ':']).bind fun inner =>
    let negated := inner.char? == some '^'
    let inner := if negated then inner.next else inner
    let name := inner.rest.takeWhile (· != ':')
    ((inner.drop name.length).take? [':', ']']).bind fun after =>
      (AsciiClass.ofName? name).map fun kind => (.ascii (after.since c.place) negated kind, after)

/-- The members of a class that were read, and the operation that waits for them. -/
structure Members where
  span : Span
  items : List CharClass
  pending : Option (ClassOperation × CharClass)

namespace Members

/-- No members at a place. -/
def none (p : Place) (pending : Option (ClassOperation × CharClass)) : Members :=
  ⟨.point p, [], pending⟩

/-- Adds a member. -/
def push (m : Members) (item : CharClass) : Members :=
  { m with
    span := ⟨if m.items.isEmpty then item.span.first else m.span.first, item.span.past⟩
    items := m.items ++ [item] }

/-- The class of the members without the operation that waits. -/
def union (m : Members) : CharClass :=
  match m.items with
  | [] => .empty m.span
  | [item] => item
  | items => .union m.span items

/-- The class of the members, as the right-hand side of what waits for it. -/
def close (m : Members) : CharClass :=
  match m.pending with
  | some (kind, lhs) =>
    .operation ⟨lhs.span.first, m.union.span.past⟩ kind lhs m.union
  | .none => m.union

end Members

/-- The operation that two equal characters stand for. -/
def operation? (first : Char) (second : Option Char) : Option ClassOperation :=
  if second = some first then
    match first with
    | '&' => some .intersection
    | '-' => some .difference
    | '~' => some .symmetricDifference
    | _ => none
  else none

/-- The literals that dashes at the start of a class are. -/
def leadingDashes (start : Place) (c : Cursor) (m : Members) : Except Error (Members × Cursor) :=
  if h : c.rest = [] then .ok (m, c)
  else if c.rest.head h = '-' then
    let after := c.advance
    if after.isAtEnd then fail .classUnclosed (.point start)
    else leadingDashes start after (m.push (.literal ⟨c.charSpan, '-', false⟩))
  else .ok (m, c)
termination_by c.rest.length
decreasing_by exact Cursor.advance_length_lt h

/-- What stands at the start of a class: whether it is negated, and the members that are literals
only because they come first. -/
structure Opening where
  span : Span
  negated : Bool
  members : Members

/-- Reads the start of a class, whose bracket comes next. -/
def opening (c : Cursor) : Except Error (Opening × Cursor) :=
  let start := c.place
  let inner := c.advance
  if inner.isAtEnd then fail .classUnclosed (inner.since start)
  else
    let negated := inner.char? == some '^'
    let inner := if negated then inner.advance else inner
    if inner.isAtEnd then fail .classUnclosed (inner.since start)
    else do
      let (members, inner) ← leadingDashes start inner (.none inner.place none)
      if members.items.isEmpty && inner.char? == some ']' then
        let after := inner.advance
        if after.isAtEnd then fail .classUnclosed (after.since start)
        else
          let members := members.push (.literal ⟨inner.charSpan, ']', false⟩)
          return (⟨after.since start, negated, members⟩, after)
      else return (⟨inner.since start, negated, members⟩, inner)

/-- Reads an atom of a class. -/
def classAtom (c : Cursor) : Except Error (Atom × Cursor) :=
  match c.char? with
  | some '\\' => escape c
  | some d => .ok (.literal ⟨c.charSpan, d, false⟩, c.next)
  | none => fail .classUnclosed c.here

/-- An atom as a member of a class; assertions are none. -/
def memberOf : Atom → Except Error CharClass
  | .literal l => .ok (.literal l)
  | .short span negated kind => .ok (.short span negated kind)
  | .property span negated query => .ok (.property span negated query)
  | a => fail .classEscapeInvalid a.span

/-- An atom as an end of a range. -/
def boundOf : Atom → Except Error Literal
  | .literal l => .ok l
  | a => fail .classRangeLiteral a.span

/-- Reads a member of a class or a range. A dash before the closing bracket or before another dash
makes no range. -/
def memberOrRange (opened : Span) (c : Cursor) : Except Error (CharClass × Cursor) := do
  let (first, c) ← classAtom c
  let c := c.skipBlanks
  if c.isAtEnd then fail .classUnclosed opened
  else if c.char? ≠ some '-' ∨ c.secondCounted? = some ']' ∨ c.secondCounted? = some '-' then
    return (← memberOf first, c)
  else
    let c := c.advance
    if c.isAtEnd then fail .classUnclosed opened
    else
      let (last, c) ← classAtom c
      let span : Span := ⟨first.span.first, last.span.past⟩
      -- Both ends are read before either is judged.
      let least ← boundOf first
      let greatest ← boundOf last
      if greatest.char < least.char then fail .classRangeInvalid span
      else return (.range span least greatest, c)

mutual

/-- Reads a class, whose bracket comes next. The fuel is more than the characters left. -/
def bracketed : Nat → Cursor → Except Error (CharClass × Cursor)
  | 0, c => fail .classUnclosed c.here
  | fuel + 1, c => do
    let (head, inner) ← opening c
    let (members, after) ← classMembers fuel head.span head.members inner
    return (.bracketed (after.since c.place) head.negated members, after)

/-- Reads the members of a class up to its closing bracket. -/
def classMembers : Nat → Span → Members → Cursor → Except Error (CharClass × Cursor)
  | 0, opened, _, _ => fail .classUnclosed opened
  | fuel + 1, opened, m, c =>
    let c := c.skipBlanks
    match c.char? with
    | none => fail .classUnclosed opened
    | some '[' =>
      match namedClass c with
      | some (item, c) => classMembers fuel opened (m.push item) c
      | none => do
        let (item, c) ← bracketed fuel c
        classMembers fuel opened (m.push item) c
    | some ']' => .ok (m.close, c.next)
    | some d =>
      match operation? d c.second? with
      | some kind =>
        let after := c.drop 2
        -- All that was read so far is the left side, so operations of one class group to the left.
        classMembers fuel opened (.none after.place (some (kind, m.close))) after
      | none => do
        let (item, c) ← memberOrRange opened c
        classMembers fuel opened (m.push item) c

end

end ToolPolicy.Regex
