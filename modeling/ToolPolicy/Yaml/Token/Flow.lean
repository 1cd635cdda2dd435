import ToolPolicy.Yaml.Token.Basic

/-! Quoted and plain scalars, whose line breaks are folded. -/

namespace ToolPolicy.Yaml.Flow

/-- Blanks and line breaks between two words. -/
structure Gap where
  /-- The blanks, as long as no line break has come. -/
  blanks : List Char
  /-- Whether a line break has come. -/
  isBroken : Bool
  firstBreak : List Char
  laterBreaks : List Char

/-- The text of a gap: one line break becomes a blank, and of several the first is dropped. -/
def Gap.text (g : Gap) : List Char :=
  if !g.isBroken then g.blanks
  else if g.firstBreak.head? == some '\n' then
    if g.laterBreaks.isEmpty then [' '] else g.laterBreaks
  else g.firstBreak ++ g.laterBreaks

/-- Goes over blanks and line breaks. The test tells where a tab must not stand, given whether a
line break has come before it. The fuel is the text that is left. -/
def skipGap (forbidden : Bool → Mark → Bool) :
    List Char → Gap → Cursor → Except Mark (Gap × Cursor)
  | [], g, c => .ok (g, c)
  | _ :: fuel, g, c =>
    match c.peek with
    | none => .ok (g, c)
    | some ch =>
      if isBlank ch then
        if ch == '\t' && forbidden g.isBroken c.mark then .error c.mark
        else
          -- Blanks after a line break are indentation, and no part of the text.
          let g := if g.isBroken then g else { g with blanks := g.blanks ++ [ch] }
          skipGap forbidden fuel g (c.skip 1)
      else if isBreak ch then
        let g := if g.isBroken then { g with laterBreaks := g.laterBreaks ++ c.lineBreak }
          else ⟨[], true, c.lineBreak, []⟩
        skipGap forbidden fuel g c.skipBreak
      else .ok (g, c)

/-- The value of a hexadecimal digit. -/
def hexDigit? (c : Char) : Option Nat :=
  if '0' ≤ c ∧ c ≤ '9' then some (c.toNat - 48)
  else if 'a' ≤ c ∧ c ≤ 'f' then some (c.toNat - 87)
  else if 'A' ≤ c ∧ c ≤ 'F' then some (c.toNat - 55)
  else none

/-- The number that hexadecimal digits stand for. -/
def hex? (cs : List Char) : Option Nat :=
  cs.foldl (fun n? c => do return (← n?) * 16 + (← hexDigit? c)) (some 0)

/-- The characters that stand for others after a backslash. -/
def escaped? : Char → Option Char
  | '0' => some '\x00'
  | 'a' => some '\x07'
  | 'b' => some '\x08'
  | 't' | '\t' => some '\t'
  | 'n' => some '\n'
  | 'v' => some '\x0b'
  | 'f' => some '\x0c'
  | 'r' => some '\r'
  | 'e' => some '\x1b'
  | ' ' => some ' '
  | '"' => some '"'
  | '/' => some '/'
  | '\\' => some '\\'
  | 'N' => some '\u0085'
  | '_' => some '\u00a0'
  | 'L' => some '\u2028'
  | 'P' => some '\u2029'
  | _ => none

/-- The number of digits of a code that the letter after a backslash asks for. -/
def codeLength? : Char → Option Nat
  | 'x' => some 2
  | 'u' => some 4
  | 'U' => some 8
  | _ => none

/-- Reads an escape sequence, the cursor standing at the backslash. -/
def readEscape (since : Mark) (c : Cursor) : Scan Char :=
  let fault (problem : Problem) (c : Cursor) : Scan Char :=
    .error (.within problem c.mark .quotedEscape since)
  match c.peekAt 1 with
  | none => fault .unknownEscape c
  | some ch =>
    match escaped? ch, codeLength? ch with
    | some d, _ => .ok (d, c.skip 2)
    | none, some n =>
      let digits := c.skip 2
      let code := digits.rest.take n
      match (if code.length = n then hex? code else none) with
      | none => fault .expectedHex digits
      | some code =>
        if (0xd800 ≤ code ∧ code ≤ 0xdfff) ∨ 0x10ffff < code then fault .invalidCode digits
        else .ok (Char.ofNat code, digits.skip n)
    | none, none => fault .unknownEscape c

/-- How a word of a quoted scalar ended. -/
inductive WordEnd where
  | stopped
  /-- A backslash at the end of its line joins it to the next one. -/
  | joined

/-- Reads the characters of a quoted scalar up to a blank, a line break or the closing quote. The
text is kept in reverse. The fuel is the text that is left. -/
def readWord (single : Bool) (since : Mark) : List Char → List Char → Cursor →
    Except Malformed (WordEnd × List Char × Cursor)
  | [], text, c => .ok (.stopped, text, c)
  | _ :: fuel, text, c =>
    match c.peek with
    | none => .ok (.stopped, text, c)
    | some ch =>
      if isBlank ch || isBreak ch then .ok (.stopped, text, c)
      else if single && ch == '\'' && c.peekAt 1 == some '\'' then
        readWord single since fuel ('\'' :: text) (c.skip 2)
      else if ch == (if single then '\'' else '"') then .ok (.stopped, text, c)
      else if !single && ch == '\\' && (c.peekAt 1).any isBreak then
        .ok (.joined, text, (c.skip 1).skipBreak)
      else if !single && ch == '\\' then
        match readEscape since c with
        | .error e => .error e
        | .ok (d, c) => readWord single since fuel (d :: text) c
      else readWord single since fuel (ch :: text) (c.skip 1)

/-- Reads words and the gaps between them up to the closing quote. The fuel is the text that is
left. -/
def readQuotedBody (single : Bool) (since : Mark) :
    List Char → List Char → Cursor → Scan (List Char)
  | [], _, c => .error (.within .unexpectedEnd c.mark .quotedScalar since)
  | _ :: fuel, text, c =>
    if c.isAtAnyMarker then .error (.within .unexpectedDocument c.mark .quotedScalar since)
    else if c.rest.isEmpty then .error (.within .unexpectedEnd c.mark .quotedScalar since)
    else
      match readWord single since c.rest text c with
      | .error e => .error e
      | .ok (ending, text, c) =>
        if c.isAt (if single then '\'' else '"') then .ok (text.reverse, c.skip 1)
        else
          let start : Gap := match ending with
            -- An escaped break counts as a break without a text of its own.
            | .joined => ⟨[], true, [], []⟩
            | .stopped => ⟨[], false, [], []⟩
          match skipGap (fun _ _ => false) c.rest start c with
          | .error mark => .error (.within .tabIndentation mark .quotedScalar since)
          | .ok (gap, c) => readQuotedBody single since fuel (gap.text.reverse ++ text) c

/-- Reads a quoted scalar, the cursor standing at its opening quote. -/
def readQuoted (single : Bool) (c : Cursor) : Scan Token :=
  (readQuotedBody single c.mark c.rest [] (c.skip 1)).map fun (text, after) =>
    (⟨.scalar (String.ofList text) .quoted, c.mark, after.mark⟩, after)

/-- The characters that end a plain scalar in a flow collection. -/
def isFlowIndicator (c : Char) : Bool :=
  c == ',' || c == '[' || c == ']' || c == '{' || c == '}'

/-- Reads the characters of a plain scalar up to a blank, a line break or an indicator. The fuel is
the text that is left. -/
def readPlainWord (inFlow : Bool) (since : Mark) :
    List Char → List Char → Cursor → Scan (List Char)
  | [], text, c => .ok (text, c)
  | _ :: fuel, text, c =>
    match c.peek with
    | none => .ok (text, c)
    | some ch =>
      if isBlank ch || isBreak ch then .ok (text, c)
      else if inFlow && ch == ':' && (c.peekAt 1).any (fun d => d == '?' || isFlowIndicator d) then
        .error (.within .unexpectedColon c.mark .plainScalar since)
      else if ch == ':' && endsWord (c.peekAt 1) then .ok (text, c)
      else if inFlow && isFlowIndicator ch then .ok (text, c)
      else readPlainWord inFlow since fuel (ch :: text) (c.skip 1)

/-- How far a plain scalar has come. -/
structure Plain where
  /-- The text in reverse. -/
  text : List Char
  finish : Mark
  /-- The gap after the last word, which belongs to the scalar only if another word follows. -/
  gap : Gap
  cursor : Cursor

/-- Reads words and gaps while they belong to the scalar: outside of flow collections they must not
stand left of `indent`. The fuel is the text that is left. -/
def readPlainBody (inFlow : Bool) (indent : Nat) (since : Mark) : List Char → Plain →
    Except Malformed Plain
  | [], p => .ok p
  | _ :: fuel, p =>
    if p.cursor.isAtAnyMarker || p.cursor.isAt '#' then .ok p
    else
      match readPlainWord inFlow since p.cursor.rest [] p.cursor with
      | .error e => .error e
      | .ok (word, c) =>
        -- An empty word leaves the scalar as it was, with its gap still open.
        let p := if word.isEmpty then { p with cursor := c }
          else ⟨word ++ (p.gap.text.reverse ++ p.text), c.mark, ⟨[], false, [], []⟩, c⟩
        if !c.peek.any (fun ch => isBlank ch || isBreak ch) then .ok p
        else
          let forbidden (broken : Bool) (m : Mark) := broken && m.column < indent
          match skipGap forbidden c.rest p.gap c with
          | .error mark => .error (.within .tabIndentation mark .plainScalar since)
          | .ok (gap, c) =>
            let p := { p with gap := gap, cursor := c }
            -- The gap is kept even where it ends the scalar: it tells whether a line break follows.
            if !inFlow && c.mark.column < indent then .ok p
            else readPlainBody inFlow indent since fuel p

/-- Reads a plain scalar, and tells whether a line break follows it. -/
def readPlain (inFlow : Bool) (parent : Int) (c : Cursor) : Scan (Token × Bool) :=
  (readPlainBody inFlow (parent + 1).toNat c.mark c.rest
    ⟨[], c.mark, ⟨[], false, [], []⟩, c⟩).map fun p =>
      ((⟨.scalar (String.ofList p.text.reverse) .plain, c.mark, p.finish⟩, p.gap.isBroken),
        p.cursor)

end ToolPolicy.Yaml.Flow
