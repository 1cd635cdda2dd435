import ToolPolicy.Yaml.Token.Property

/-! From a text to its tokens.

A key on one line is known as a key only when its colon comes, so tokens wait in a queue as long as
the first of them may still start a key. -/

namespace ToolPolicy.Yaml

/-- A place where a key may have started. -/
structure PossibleKey where
  /-- Whether the text is wrong if no colon follows. -/
  isRequired : Bool
  /-- The number of tokens before the key. -/
  number : Nat
  mark : Mark
deriving Repr

/-- Reading tokens, as far as it has come. -/
structure Lexer where
  cursor : Cursor
  started : Bool
  /-- The column of the block collection that is open; minus one if there is none. -/
  indent : Int
  /-- The columns of the collections around it. -/
  outerIndents : List Int
  /-- Whether a key may start here. -/
  keyAllowed : Bool
  /-- The key that may have started in each flow collection, the innermost first, and last the one
  outside of all. -/
  possibleKeys : List (Option PossibleKey)
  /-- The tokens given out. -/
  taken : Nat
  /-- The tokens that wait. -/
  queue : List Token
deriving Repr

namespace Lexer

/-- Before the first token of a text. -/
def start (cs : List Char) : Lexer := ⟨⟨cs, .start⟩, false, -1, [], false, [], 0, []⟩

/-- Whether a flow collection is open. -/
def inFlow (l : Lexer) : Bool := 1 < l.possibleKeys.length

def mark (l : Lexer) : Mark := l.cursor.mark

/-- Puts a token at the end of the queue. -/
def push (l : Lexer) (t : Token) : Lexer := { l with queue := l.queue ++ [t] }

/-- Puts a token before the token of a number. -/
def insertBefore (l : Lexer) (number : Nat) (t : Token) : Lexer :=
  -- Numbers count from the first token of the text, and the queue begins after those taken.
  { l with queue := l.queue.take (number - l.taken) ++ t :: l.queue.drop (number - l.taken) }

/-- Sets the key that may have started in the innermost collection. -/
def setKey (l : Lexer) (key : Option PossibleKey) : Lexer :=
  { l with possibleKeys := key :: l.possibleKeys.tail }

/-- The key that may have started in the innermost collection. -/
def key (l : Lexer) : Option PossibleKey := l.possibleKeys.head?.join

/-- A required key without its colon. -/
def missingColon (l : Lexer) (key : PossibleKey) : Malformed :=
  .within .expectedColon l.mark .simpleKey key.mark

/-- Gives up the key that may have started. -/
def removeKey (l : Lexer) : Except Malformed Lexer :=
  match l.key with
  | some key => if key.isRequired then .error (l.missingColon key) else .ok (l.setKey none)
  | none => .ok l

/-- Notes that a key may start here. -/
def saveKey (l : Lexer) : Except Malformed Lexer :=
  if l.keyAllowed then
    -- What starts at the column of the open block collection must turn out to be a key.
    let isRequired := !l.inFlow && l.indent == l.mark.column
    let key : PossibleKey := ⟨isRequired, l.taken + l.queue.length, l.mark⟩
    l.removeKey.map fun l => l.setKey (some key)
  else .ok l

/-- The longest distance in characters from the start of a key to its colon. -/
def maxKeyLength : Nat := 1024

/-- Whether a key that started at a place can no longer be one. -/
def isStale (l : Lexer) (key : PossibleKey) : Bool :=
  key.mark.line < l.mark.line || key.mark.index + maxKeyLength < l.mark.index

/-- Gives up the keys that can no longer be keys. The outermost is looked at first. -/
def removeStaleKeys (l : Lexer) : Except Malformed Lexer :=
  match l.possibleKeys.reverse.find? (fun key => key.any fun k => l.isStale k && k.isRequired) with
  | some (some key) => .error (l.missingColon key)
  -- A key that was not required is dropped without a word: its text is then no key.
  | _ => .ok { l with possibleKeys := l.possibleKeys.map (·.filter fun k => !l.isStale k) }

/-- Opens a block collection if the column is further right than the one that is open. -/
def openBlock (l : Lexer) (column : Nat) (number : Option Nat) (kind : Token.Kind) (mark : Mark) :
    Lexer :=
  if l.inFlow || column ≤ l.indent then l
  else
    let l := { l with indent := column, outerIndents := l.indent :: l.outerIndents }
    match number with
    | some n => l.insertBefore n ⟨kind, mark, mark⟩
    | none => l.push ⟨kind, mark, mark⟩

/-- Closes the block collections that are further right than a column; `columns` are those of the
open collections. -/
def closeTo (column : Int) : Int → List Int → Lexer → Lexer
  | indent, columns, l =>
    if indent ≤ column then { l with indent := indent, outerIndents := columns }
    else
      let l := l.push ⟨.blockEnd, l.mark, l.mark⟩
      match columns with
      | [] => { l with indent := -1, outerIndents := [] }
      | outer :: rest => closeTo column outer rest l
termination_by _ columns => columns.length

/-- Closes block collections, unless a flow collection is open. -/
def closeBlocks (l : Lexer) (column : Int) : Lexer :=
  if l.inFlow then l else closeTo column l.indent l.outerIndents l

/-- Takes a token of so many characters. -/
def take (l : Lexer) (length : Nat) (kind : Token.Kind) : Lexer :=
  let after := l.cursor.skip length
  { l.push ⟨kind, l.mark, after.mark⟩ with cursor := after }

/-- Takes a token that was read. -/
def takeRead (l : Lexer) (scan : Scan Token) : Except Malformed Lexer :=
  scan.map fun (token, after) => { l.push token with cursor := after }

/-- Goes over blanks, comments and line breaks. The fuel is the text that is left. -/
def skipToToken : List Char → Lexer → Lexer
  | [], l => l
  | _ :: fuel, l =>
    let c := if l.mark.index == 0 && l.cursor.isAt '\ufeff' then l.cursor.skip 1 else l.cursor
    -- Where a key may start outside of flow collections, a tab would be indentation. It is left
    -- standing, and no token starts with it.
    let c := c.skipWhile fun ch => ch == ' ' || ((l.inFlow || !l.keyAllowed) && ch == '\t')
    let c := if c.isAt '#' then c.skipWhile (fun ch => !isBreak ch) else c
    if c.peek.any isBreak then
      -- Outside of flow collections a key may start on every new line.
      skipToToken fuel { l with cursor := c.skipBreak, keyAllowed := !l.inFlow || l.keyAllowed }
    else { l with cursor := c }

/-- The first token stands for the text itself. -/
def takeStart (l : Lexer) : Lexer :=
  { l.take 0 .streamStart with started := true, possibleKeys := [none], keyAllowed := true }

/-- The last token stands at the start of a line. -/
def takeEnd (l : Lexer) : Except Malformed Lexer := do
  let m := l.mark
  let atLine : Mark := if m.column = 0 then m else ⟨m.index, m.line + 1, 0⟩
  let l := { l with cursor := { l.cursor with mark := atLine } }
  let l ← (l.closeBlocks (-1)).removeKey
  return { l with keyAllowed := false }.take 0 .streamEnd

/-- A directive or a document marker closes every block collection. -/
def closeDocument (l : Lexer) : Except Malformed Lexer := do
  let l ← (l.closeBlocks (-1)).removeKey
  return { l with keyAllowed := false }

/-- Opens a flow collection, which may itself be a key. -/
def openFlow (l : Lexer) (kind : Token.Kind) : Except Malformed Lexer := do
  let l ← l.saveKey
  return { l with possibleKeys := none :: l.possibleKeys, keyAllowed := true }.take 1 kind

/-- Closes a flow collection. -/
def closeFlow (l : Lexer) (kind : Token.Kind) : Except Malformed Lexer := do
  let l ← l.removeKey
  -- A bracket that closes nothing is left to the grammar; the place of the key outside of all
  -- stays.
  let keys := if l.inFlow then l.possibleKeys.tail else l.possibleKeys
  return { l with possibleKeys := keys, keyAllowed := false }.take 1 kind

/-- Takes the comma of a flow collection. -/
def takeFlowEntry (l : Lexer) : Except Malformed Lexer := do
  let l ← l.removeKey
  return { l with keyAllowed := true }.take 1 .flowEntry

/-- Takes the dash of a block sequence, which may open it. In a flow collection the dash is left to
the grammar. -/
def takeBlockEntry (l : Lexer) : Except Malformed Lexer := do
  if !l.inFlow && !l.keyAllowed then .error (.here .entryNotAllowed l.mark)
  else
    let l ← (l.openBlock l.mark.column none .blockSequenceStart l.mark).removeKey
    return { l with keyAllowed := true }.take 1 .blockEntry

/-- Takes the question mark of a key. -/
def takeKey (l : Lexer) : Except Malformed Lexer := do
  if !l.inFlow && !l.keyAllowed then .error (.here .keyNotAllowed l.mark)
  else
    let l ← (l.openBlock l.mark.column none .blockMappingStart l.mark).removeKey
    -- After the sign a block collection may begin on the same line.
    return { l with keyAllowed := !l.inFlow }.take 1 .key

/-- Takes the colon of a value. It makes a key of what may have been one. -/
def takeValue (l : Lexer) : Except Malformed Lexer :=
  match l.key with
  | some key =>
    -- The key's own tokens wait in the queue; the sign of a key goes in front of them, and in front
    -- of that the start of a mapping, if the key opens one.
    let l := l.insertBefore key.number ⟨.key, key.mark, key.mark⟩
    let l := l.openBlock key.mark.column (some key.number) .blockMappingStart key.mark
    .ok ({ l.setKey none with keyAllowed := false }.take 1 .value)
  -- Without such a key the colon belongs to a question mark, or to a key that is left out.
  | none =>
    if !l.inFlow && !l.keyAllowed then .error (.here .valueNotAllowed l.mark)
    else
      let l := l.openBlock l.mark.column none .blockMappingStart l.mark
      .ok ({ l with keyAllowed := !l.inFlow }.take 1 .value)

/-- Takes something that may be a key or start one. -/
def takeNode (l : Lexer) (scan : Scan Token) : Except Malformed Lexer := do
  let l ← l.saveKey
  { l with keyAllowed := false }.takeRead scan

/-- Takes a block scalar, which is never a key. -/
def takeBlockScalar (l : Lexer) (folded : Bool) : Except Malformed Lexer := do
  let l ← l.removeKey
  { l with keyAllowed := true }.takeRead (Block.read folded l.indent l.cursor)

/-- Takes a plain scalar. A key may start after the line break that follows it. -/
def takePlain (l : Lexer) : Except Malformed Lexer := do
  let l ← l.saveKey
  let ((token, broken), after) ← Flow.readPlain l.inFlow l.indent l.cursor
  return { l.push token with cursor := after, keyAllowed := broken }

/-- The characters that do not start a plain scalar. -/
def reserved : List Char :=
  ['-', '?', ':', ',', '[', ']', '{', '}', '#', '&', '*', '!', '|', '>', '\'', '"', '%', '@',
    '\x60']

/-- Whether a plain scalar starts with a character, given the one after it. -/
def startsPlain (inFlow : Bool) (ch : Char) (next : Option Char) : Bool :=
  !(isBlank ch || isBreak ch || reserved.contains ch) ||
    (ch == '-' && !next.any isBlank) ||
    (!inFlow && (ch == '?' || ch == ':') && !endsWord next)

/-- Takes the token that starts with the next character. -/
def takeToken (l : Lexer) : Except Malformed Lexer :=
  let c := l.cursor
  -- In flow collections the signs of keys and values need no blank after them.
  let apart := l.inFlow || endsWord (c.peekAt 1)
  match c.peek with
  | none => l.takeEnd
  | some ch =>
    if c.mark.column = 0 ∧ ch = '%' then
      l.closeDocument >>= fun l => l.takeRead (Property.readDirective l.cursor)
    else if c.isAtMarker '-' then l.closeDocument.map fun l => l.take 3 .documentStart
    else if c.isAtMarker '.' then l.closeDocument.map fun l => l.take 3 .documentEnd
    else if ch = '[' then l.openFlow .flowSequenceStart
    else if ch = '{' then l.openFlow .flowMappingStart
    else if ch = ']' then l.closeFlow .flowSequenceEnd
    else if ch = '}' then l.closeFlow .flowMappingEnd
    else if ch = ',' then l.takeFlowEntry
    else if ch = '-' && endsWord (c.peekAt 1) then l.takeBlockEntry
    else if ch = '?' && apart then l.takeKey
    else if ch = ':' && apart then l.takeValue
    else if ch = '*' then l.takeNode (Property.readName .alias .alias c)
    else if ch = '&' then l.takeNode (Property.readName .anchor .anchor c)
    else if ch = '!' then l.takeNode (Property.readTag l.inFlow c)
    else if ch = '|' && !l.inFlow then l.takeBlockScalar false
    else if ch = '>' && !l.inFlow then l.takeBlockScalar true
    else if ch = '\'' then l.takeNode (Flow.readQuoted true c)
    else if ch = '"' then l.takeNode (Flow.readQuoted false c)
    else if startsPlain l.inFlow ch (c.peekAt 1) then l.takePlain
    else .error (.within .cannotStartToken l.mark .nextToken l.mark)

/-- Reads one more token into the queue. -/
def fetch (l : Lexer) : Except Malformed Lexer := do
  if !l.started then return l.takeStart
  else
    let l ← (skipToToken l.cursor.rest l).removeStaleKeys
    (l.closeBlocks l.mark.column).takeToken

/-- Whether a token of the queue may still turn out to start a key at its head. -/
def headMayChange (l : Lexer) : Bool :=
  l.possibleKeys.any fun key => key.any fun k => k.number == l.taken

/-- A text up to the block with a character that may not stand in it, and that character's place in
bytes. -/
structure Readable where
  chars : List Char
  fault : Option Nat

/-- The number of bytes that are decoded at a time. -/
def blockSize : Nat := 16384

/-- Splits a text before the block of its first unreadable character. `block` holds the characters
of the current block in reverse and `size` its bytes; `before` are the blocks that came earlier. -/
def readableFrom (before block : List Char) (size offset : Nat) : List Char → Readable
  | [] => ⟨(block ++ before).reverse, none⟩
  | c :: rest =>
    let full := blockSize < size + c.utf8Size
    let before := if full then block ++ before else before
    let block := if full then [] else block
    let size := if full then 0 else size
    if isReadable c then
      readableFrom before (c :: block) (size + c.utf8Size) (offset + c.utf8Size) rest
    -- The characters of the current block are lost with the one that cannot be read.
    else ⟨before.reverse, some offset⟩

/-- The part of a text that can be read. -/
def readable (cs : List Char) : Readable := readableFrom [] [] 0 0 cs

/-- The fault of an unreadable character. -/
def unreadable (offset : Nat) : Malformed := ⟨.controlCharacter, .start, offset, none⟩

/-- The characters that are looked at beyond a token. -/
def lookahead : Nat := 4

/-- Whether looking ahead would go beyond the text. -/
def nearsEnd (l : Lexer) : Bool := (l.cursor.rest.take lookahead).length < lookahead

/-- Reads one more token; what comes close to an unreadable block meets its fault. -/
def fetchBefore (fault : Option Nat) (length : Nat) (l : Lexer) : Except Malformed Lexer :=
  match fault with
  | none => l.fetch
  | some offset =>
    -- Looking ahead asks for the next block, whether or not the token would have needed it.
    if l.nearsEnd then .error (unreadable offset)
    else
      match l.fetch with
      -- A fault close to the end comes after the look at the next block, which failed first.
      | .error e => .error (if length < e.mark.index + lookahead then unreadable offset else e)
      | .ok l => if l.nearsEnd then .error (unreadable offset) else .ok l

/-- The tokens of a text up to its end or to the first fault. The fuel is more than twice the length
of the text: every step reads a token or gives one out. -/
def run (fault : Option Nat) (length : Nat) : Nat → Lexer → List Token × Option Malformed
  | 0, _ => ([], none)
  | fuel + 1, l =>
    let more (l : Lexer) : List Token × Option Malformed :=
      match l.fetchBefore fault length with
      | .error e => ([], some e)
      | .ok l => run fault length fuel l
    match l.queue with
    | [] => more l
    | head :: rest =>
      match l.removeStaleKeys with
      | .error e => ([], some e)
      | .ok l =>
        -- A colon that is still to come would put the sign of a key before this token.
        if l.headMayChange then more l
        else if head.kind = .streamEnd then ([head], none)
        else
          let (tokens, e) := run fault length fuel { l with queue := rest, taken := l.taken + 1 }
          (head :: tokens, e)

end Lexer

/-- The tokens of a text, and the fault that cut them short. -/
def Token.scan (cs : List Char) : List Token × Option Malformed :=
  let text := Lexer.readable cs
  let length := text.chars.length
  Lexer.run text.fault length (8 * length + 16) (Lexer.start text.chars)

end ToolPolicy.Yaml
