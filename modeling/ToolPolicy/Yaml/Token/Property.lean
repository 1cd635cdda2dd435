import ToolPolicy.Yaml.Token.Block
import ToolPolicy.Yaml.Token.Flow

/-! Anchors, aliases, tags and directives. -/

namespace ToolPolicy.Yaml.Property

/-- The characters that may follow the name of an anchor directly. -/
def nameEnds : List Char := ['?', ':', ',', ']', '}', '%', '@', '\x60']

/-- Reads an anchor or an alias, the cursor standing at its indicator. -/
def readName (activity : Activity) (kind : String → Token.Kind) (c : Cursor) : Scan Token :=
  let (name, after) := (c.skip 1).span isNameChar
  if name.isEmpty || !(endsWord after.peek || after.peek.any nameEnds.contains) then
    .error (.within .expectedName after.mark activity c.mark)
  else .ok (⟨kind (String.ofList name), c.mark, after.mark⟩, after)

/-- The characters of tags besides those of names. -/
def uriMarks : List Char :=
  [';', '/', '?', ':', '@', '&', '=', '+', '$', '.', '%', '!', '~', '*', '\'', '(', ')']

/-- Whether a character may stand in a tag; a tag between angle brackets has a few more. -/
def isUriChar (verbatim : Bool) (c : Char) : Bool :=
  isNameChar c || uriMarks.contains c || (verbatim && (c == ',' || c == '[' || c == ']'))

/-- The byte of an escape with a percent sign. -/
def octet? (c : Cursor) : Option Nat :=
  match c.rest with
  | '%' :: a :: b :: _ => Flow.hex? [a, b]
  | _ => none

/-- The number of bytes of the character that a byte starts; zero if it starts none. -/
def octetWidth (octet : Nat) : Nat :=
  if octet < 0x80 then 1
  else if octet / 0x20 = 0x6 then 2
  else if octet / 0x10 = 0xe then 3
  else if octet / 0x8 = 0x1e then 4
  else 0

/-- Reads the bytes of a character after the first one. -/
def readOctets (activity : Activity) (since : Mark) : Nat → Nat → Cursor → Scan Nat
  | 0, code, c => .ok (code, c)
  | due + 1, code, c =>
    match octet? c with
    | none => .error (.within .expectedOctet c.mark activity since)
    | some octet =>
      if octet / 0x40 ≠ 2 then .error (.within .wrongTrailingOctet c.mark activity since)
      else readOctets activity since due (code * 64 + octet % 64) (c.skip 3)

/-- Reads a character that is written by its bytes. -/
def readEscapedChar (activity : Activity) (since : Mark) (c : Cursor) : Scan Char :=
  match octet? c with
  | none => .error (.within .expectedOctet c.mark activity since)
  | some octet =>
    let width := octetWidth octet
    if width = 0 then .error (.within .wrongLeadingOctet c.mark activity since)
    else
      let lead := octet % Nat.pow 2 (if width = 1 then 7 else 7 - width)
      (readOctets activity since (width - 1) lead (c.skip 3)).map fun (code, c) =>
        (Char.ofNat code, c)

/-- Reads the characters of a tag. The fuel is the text that is left. -/
def readUriChars (verbatim : Bool) (activity : Activity) (since : Mark) :
    List Char → Cursor → Scan (List Char)
  | [], c => .ok ([], c)
  | _ :: fuel, c =>
    match c.peek with
    | none => .ok ([], c)
    | some ch =>
      if !isUriChar verbatim ch then .ok ([], c)
      else
        match (if ch = '%' then readEscapedChar activity since c else .ok (ch, c.skip 1)) with
        | .error e => .error e
        | .ok (d, c) =>
          (readUriChars verbatim activity since fuel c).map fun (ds, c) => (d :: ds, c)

/-- Reads a tag that continues a head, which may make up for an empty rest. -/
def readUri (verbatim : Bool) (activity : Activity) (since : Mark) (head : List Char) (c : Cursor) :
    Scan (List Char) :=
  match readUriChars verbatim activity since c.rest c with
  | .error e => .error e
  | .ok (chars, after) =>
    if head.isEmpty && chars.isEmpty then .error (.within .expectedUri after.mark activity since)
    -- The first character of the head is its exclamation mark.
    else .ok (head.drop 1 ++ chars, after)

/-- Reads a handle such as `!`, `!!` or `!name!`, or the start of a tag that looks like one. -/
def readHandle (inDirective : Bool) (since : Mark) (c : Cursor) : Scan (List Char) :=
  let activity := if inDirective then Activity.tagDirectiveHandle else Activity.tag
  if !c.isAt '!' then .error (.within .expectedBang c.mark activity since)
  else
    let (name, after) := (c.skip 1).span isNameChar
    if after.isAt '!' then .ok ('!' :: name ++ ['!'], after.skip 1)
    else if inDirective && !name.isEmpty then
      .error (.within .expectedBang after.mark .tagDirectiveShortHandle since)
    else .ok ('!' :: name, after)

/-- Reads the handle and the suffix of a tag. -/
def readTagParts (c : Cursor) :
    Except Malformed ((List Char × List Char) × Cursor) := do
  let since := c.mark
  if c.peekAt 1 == some '<' then
    let (suffix, c) ← readUri true .tagUri since [] (c.skip 2)
    if c.isAt '>' then return (([], suffix), c.skip 1)
    else .error (.within .expectedAngle c.mark .tag since)
  else
    let (handle, c) ← readHandle false since c
    if 1 < handle.length && handle.getLast? == some '!' then
      let (suffix, c) ← readUri false .tagUri since [] c
      return ((handle, suffix), c)
    else
      let (suffix, c) ← readUri false .tagUri since handle c
      -- A lone exclamation mark is a tag of its own and needs no handle.
      return (if suffix.isEmpty then ([], ['!']) else (['!'], suffix), c)

/-- Reads a tag, the cursor standing at its indicator. -/
def readTag (inFlow : Bool) (c : Cursor) : Except Malformed (Token × Cursor) := do
  let ((handle, suffix), after) ← readTagParts c
  if endsWord after.peek || (inFlow && after.isAt ',') then
    return (⟨.tag (String.ofList handle) (String.ofList suffix), c.mark, after.mark⟩, after)
  else .error (.within .expectedBlankOrBreak after.mark .tag c.mark)

/-- Reads one number of a version; it has at most nine digits. -/
def readVersionNumber (since : Mark) (c : Cursor) : Scan Nat :=
  let (digits, after) := c.span Char.isDigit
  if 9 < digits.length then
    .error (.within .longVersion (c.mark.advance 9) .versionDirective since)
  else if digits.isEmpty then .error (.within .expectedVersion c.mark .versionDirective since)
  else .ok (Digits.toNat digits, after)

/-- Reads the version after the name of its directive. -/
def readVersion (since : Mark) (c : Cursor) : Except Malformed (Token.Kind × Cursor) := do
  let (major, c) ← readVersionNumber since (c.skipWhile isBlank)
  if !c.isAt '.' then .error (.within .expectedDigitOrDot c.mark .versionDirective since)
  else
    let (minor, c) ← readVersionNumber since (c.skip 1)
    return (.versionDirective major minor, c)

/-- Reads the handle and the tag that it stands for after the name of their directive. -/
def readTagDirective (since : Mark) (c : Cursor) : Except Malformed (Token.Kind × Cursor) := do
  let (handle, c) ← readHandle true since (c.skipWhile isBlank)
  if !c.peek.any isBlank then .error (.within .expectedBlank c.mark .tagDirective since)
  else
    let (uri, c) ← readUri true .tagDirectiveUri since [] (c.skipWhile isBlank)
    if !endsWord c.peek then .error (.within .expectedBlankOrBreak c.mark .tagDirective since)
    else return (.tagDirective (String.ofList handle) (String.ofList uri), c)

/-- Reads a directive and the rest of its line, the cursor standing at its indicator. -/
def readDirective (c : Cursor) : Except Malformed (Token × Cursor) := do
  let since := c.mark
  let (name, after) := (c.skip 1).span isNameChar
  if name.isEmpty then .error (.within .expectedDirectiveName after.mark .directive since)
  else if !endsWord after.peek then .error (.within .unexpectedInName after.mark .directive since)
  else
    let (kind, ended) ←
      if name = "YAML".toList then readVersion since after
      else if name = "TAG".toList then readTagDirective since after
      else .error (.within .unknownDirective after.mark .directive since)
    let next ← Block.skipLineEnd since .directive ended
    -- The token ends before the comment that may follow on its line.
    return (⟨kind, since, ended.mark⟩, next)

end ToolPolicy.Yaml.Property
