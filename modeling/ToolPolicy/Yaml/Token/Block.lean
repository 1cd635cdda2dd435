import ToolPolicy.Yaml.Token.Basic

/-! Literal and folded scalars. -/

namespace ToolPolicy.Yaml.Block

/-- The line breaks at the end of a block that its text keeps. -/
inductive Chomp where
  | none
  | one
  | all
deriving DecidableEq, Repr

/-- What the line of the indicator says: chomping, and the columns of indentation. -/
structure Header where
  chomp : Chomp
  increment : Option Nat

/-- Reads a chomping sign, if there is one. -/
def readChomp (c : Cursor) : Option Chomp × Cursor :=
  match c.peek with
  | some '+' => (some .all, c.skip 1)
  | some '-' => (some .none, c.skip 1)
  | _ => (none, c)

/-- Reads an indentation digit, if there is one; it must not be zero. -/
def readIncrement (since : Mark) (c : Cursor) : Scan (Option Nat) :=
  match c.peek with
  | some d =>
    if d = '0' then .error (.within .zeroIndentation c.mark .blockScalar since)
    else if d.isDigit then .ok (some (d.toNat - 48), c.skip 1)
    else .ok (none, c)
  | none => .ok (none, c)

/-- Reads chomping and indentation, in either order. -/
def readHeader (since : Mark) (c : Cursor) : Scan Header :=
  match readChomp c with
  | (some chomp, c) => (readIncrement since c).map fun (increment, c) => (⟨chomp, increment⟩, c)
  | (none, c) =>
    match readIncrement since c with
    | .error e => .error e
    | .ok (none, c) => .ok (⟨.one, none⟩, c)
    | .ok (some n, c) =>
      let (chomp, c) := readChomp c
      .ok (⟨chomp.getD .one, some n⟩, c)

/-- Goes over blanks and a comment to the end of the line, and over its line break. -/
def skipLineEnd (since : Mark) (activity : Activity) (c : Cursor) : Except Malformed Cursor :=
  let c := c.skipWhile isBlank
  let c := if c.isAt '#' then c.skipWhile (fun ch => !isBreak ch) else c
  if endsLine c.peek then .ok c.skipBreak
  else .error (.within .expectedLineEnd c.mark activity since)

/-- Indentation and empty lines: the greatest column that was reached, the line breaks in order,
and the place after the last of them. -/
structure Gap where
  column : Nat
  breaks : List Char
  finish : Mark
  cursor : Cursor

/-- Goes over indentation, up to the column if it is known, and over empty lines. The fuel is the
text that is left. -/
def skipGap (indent : Option Nat) : List Char → Nat → List Char → Mark → Cursor → Gap
  | fuel, column, breaks, finish, c =>
    let blanks := c.rest.takeWhile (· == ' ')
    let due := match indent with
      -- Blanks beyond the indentation belong to the line.
      | some n => min blanks.length (n - c.mark.column)
      | none => blanks.length
    let c := c.skip due
    let column := max column c.mark.column
    match fuel with
    | [] => ⟨column, breaks, finish, c⟩
    | _ :: fuel =>
      if c.peek.any isBreak then
        let next := c.skipBreak
        skipGap indent fuel column (breaks ++ c.lineBreak) next.mark next
      else ⟨column, breaks, finish, c⟩

/-- A gap, unless a tab stands where indentation is due. -/
def readGap (since : Mark) (indent : Option Nat) (c : Cursor) : Except Malformed Gap :=
  let gap := skipGap indent c.rest 0 [] c.mark c
  let due := match indent with
    | some n => gap.cursor.mark.column < n
    | none => true
  if due && gap.cursor.isAt '\t' then
    .error (.within .tabForSpace gap.cursor.mark .blockScalar since)
  else .ok gap

/-- How far the text of a block has come. -/
structure Body where
  /-- The text in reverse, without the line break of its last line. -/
  text : List Char
  lastBreak : List Char
  emptyLines : List Char
  /-- Whether the last line started with a blank. -/
  wasIndented : Bool
  finish : Mark
  cursor : Cursor

/-- What stands between the last line and the next one: in folded text a blank takes the place of a
single line break, unless one of the lines starts with a blank. -/
def between (folded isIndented : Bool) (b : Body) : List Char :=
  if folded && b.lastBreak.head? == some '\n' && !b.wasIndented && !isIndented then
    (if b.emptyLines.isEmpty then [' '] else []) ++ b.emptyLines
  else b.lastBreak ++ b.emptyLines

/-- Reads the lines at the column of the block. The fuel is the text that is left. -/
def readLines (since : Mark) (folded : Bool) (indent : Nat) :
    List Char → Body → Except Malformed Body
  | [], b => .ok b
  | _ :: fuel, b =>
    let c := b.cursor
    -- A line further left ends the block; one further right cannot be, as the gap stops at the
    -- column.
    if c.mark.column ≠ indent || c.rest.isEmpty then .ok b
    else
      let isIndented := c.peek.any isBlank
      let (line, c) := c.span fun ch => !isBreak ch
      let text := line.reverse ++ ((between folded isIndented b).reverse ++ b.text)
      match readGap since (some indent) c.skipBreak with
      | .error e => .error e
      | .ok gap =>
        readLines since folded indent fuel
          ⟨text, c.lineBreak, gap.breaks, isIndented, gap.finish, gap.cursor⟩

/-- The text of a block with the line breaks at its end that it keeps. -/
def chomped (chomp : Chomp) (b : Body) : List Char :=
  b.text.reverse ++
    match chomp with
    | .none => []
    | .one => b.lastBreak
    | .all => b.lastBreak ++ b.emptyLines

/-- Reads a block after its indicator `|` or `>`; `parent` is the column of the collection around
it. The token ends after the last line that belongs to it. -/
def read (folded : Bool) (parent : Int) (c : Cursor) : Except Malformed (Token × Cursor) := do
  let since := c.mark
  let (header, c) ← readHeader since (c.skip 1)
  let c ← skipLineEnd since .blockScalar c
  let known := header.increment.map fun n => (max parent 0).toNat + n
  let gap ← readGap since known c
  -- The first line that is not empty sets the column, or an empty line before it with more blanks.
  let indent := known.getD (max (max gap.column (parent + 1).toNat) 1)
  let body ← readLines since folded indent gap.cursor.rest
    ⟨[], [], gap.breaks, false, gap.finish, gap.cursor⟩
  let text := String.ofList (chomped header.chomp body)
  return (⟨.scalar text .block, since, body.finish⟩, body.cursor)

end ToolPolicy.Yaml.Block
