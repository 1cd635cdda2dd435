import ToolPolicy.Json.Number
import ToolPolicy.Json.Value

/-! Reading JSON texts. -/

namespace ToolPolicy.Json

/-- The blanks between the parts of a text. -/
def isBlank (c : Char) : Bool := c == ' ' || c == '\n' || c == '\t' || c == '\r'

def skipBlanks (cs : List Char) : List Char := cs.dropWhile isBlank

/-- The value of a hexadecimal digit. -/
def hexDigit? (c : Char) : Option Nat :=
  if '0' ≤ c ∧ c ≤ '9' then some (c.toNat - 48)
  else if 'a' ≤ c ∧ c ≤ 'f' then some (c.toNat - 87)
  else if 'A' ≤ c ∧ c ≤ 'F' then some (c.toNat - 55)
  else none

/-- The number that four hexadecimal digits stand for. -/
def fourHexDigits? (a b c d : Char) : Option Nat := do
  let a ← hexDigit? a
  let b ← hexDigit? b
  let c ← hexDigit? c
  let d ← hexDigit? d
  return ((a * 16 + b) * 16 + c) * 16 + d

/-- Reads the four digits of a code; it takes four bytes whatever they are. -/
def readHex (cs : List Char) : Step Nat :=
  let unfit : Step Nat :=
    -- Four bytes are looked at before any digit is, so a text that is too short ends in the string.
    if 4 ≤ byteLength (cs.take 4) then .error ⟨.invalidEscape, cs, 4⟩ else stopAt .endInString []
  match cs with
  | a :: b :: c :: d :: rest =>
    match fourHexDigits? a b c d with
    | some n => .ok (n, rest)
    | none => unfit
  | _ => unfit

/-- Reads the second half of a character that is written as two codes. -/
def readSecondHalf (high : Nat) (cs : List Char) : Step Char :=
  match cs with
  | [] => stopAt .endInString []
  | '\\' :: [] => stopAt .endInString []
  | '\\' :: 'u' :: rest =>
    match readHex rest with
    | .error stop => .error stop
    | .ok (low, rest') =>
      if 0xdc00 ≤ low ∧ low ≤ 0xdfff then
        .ok (Char.ofNat ((high - 0xd800) * 0x400 + (low - 0xdc00) + 0x10000), rest')
      -- Any other code was read as a whole and stands in the place of a second half.
      else stopAt .loneSurrogate rest'
  | '\\' :: rest => stopPast .endOfHexEscape rest
  | _ => stopPast .endOfHexEscape cs

/-- Reads a character that is written by its code. -/
def readCode (cs : List Char) : Step Char :=
  match readHex cs with
  | .error stop => .error stop
  | .ok (n, rest) =>
    if 0xdc00 ≤ n ∧ n ≤ 0xdfff then stopAt .loneSurrogate rest
    else if 0xd800 ≤ n ∧ n ≤ 0xdbff then readSecondHalf n rest
    else .ok (Char.ofNat n, rest)

/-- Reads what follows a backslash. -/
def readEscape (cs : List Char) : Step Char :=
  match cs with
  | [] => stopAt .endInString []
  | '"' :: rest => .ok ('"', rest)
  | '\\' :: rest => .ok ('\\', rest)
  | '/' :: rest => .ok ('/', rest)
  | 'b' :: rest => .ok ('\x08', rest)
  | 'f' :: rest => .ok ('\x0c', rest)
  | 'n' :: rest => .ok ('\n', rest)
  | 'r' :: rest => .ok ('\r', rest)
  | 't' :: rest => .ok ('\t', rest)
  | 'u' :: rest => readCode rest
  | _ => stopPast .invalidEscape cs

/-- Reads a string after its opening quote. The fuel is the text that is left. -/
def readString : List Char → List Char → Step (List Char)
  | [], cs => stopAt .endInString cs
  | _ :: _, [] => stopAt .endInString []
  | _ :: fuel, c :: rest =>
    if c = '"' then .ok ([], rest)
    else if c = '\\' then
      match readEscape rest with
      | .error stop => .error stop
      | .ok (d, rest') => (readString fuel rest').map fun (ds, left) => (d :: ds, left)
    -- Other control characters may stand as they are.
    else if c.toNat < 0x20 then stopPast .controlCharacter (c :: rest)
    else (readString fuel rest).map fun (ds, left) => (c :: ds, left)

/-- Reads the letters of a word that must come next. -/
def readWord : List Char → List Char → Except Stop (List Char)
  | [], cs => .ok cs
  | _ :: _, [] => stopAt .endInValue []
  | w :: word, c :: rest =>
    if w = c then readWord word rest else stopPast .expectedIdent (c :: rest)

/-- How far a list or an object has come. -/
inductive Place where
  /-- Right after the opening bracket. -/
  | opened
  /-- After an element. -/
  | filled

/-- Finds the next item of a list; none where the list ends. -/
def nextItem (place : Place) (cs : List Char) : Except Stop (Option (List Char)) :=
  match place, skipBlanks cs with
  | _, [] => stopAt .endInList []
  | _, ']' :: _ => .ok none
  | .opened, left => .ok (some left)
  | .filled, ',' :: rest =>
    match skipBlanks rest with
    | [] => stopAt .endInValue []
    -- The fault is placed at the bracket and not at the comma.
    | ']' :: more => stopPast .trailingComma (']' :: more)
    | left => .ok (some left)
  | .filled, left => stopPast .expectedListEnd left

/-- Finds the next key of an object, its quote having been read; none where the object ends. -/
def nextKey (place : Place) (cs : List Char) : Except Stop (Option (List Char)) :=
  let key : List Char → Except Stop (Option (List Char))
    | '"' :: rest => .ok (some rest)
    | left => stopPast .keyMustBeString left
  match place, skipBlanks cs with
  | _, [] => stopAt .endInObject []
  | _, '}' :: _ => .ok none
  | .opened, left => key left
  | .filled, ',' :: rest =>
    match skipBlanks rest with
    | [] => stopAt .endInValue []
    | '}' :: more => stopPast .trailingComma ('}' :: more)
    | left => key left
  | .filled, left => stopPast .expectedObjectEnd left

/-- Reads the colon between a key and its value. -/
def readColon (cs : List Char) : Except Stop (List Char) :=
  match skipBlanks cs with
  | [] => stopAt .endInObject []
  | ':' :: rest => .ok rest
  | left => stopPast .expectedColon left

/-- The number of collections that may lie within one another. -/
def maxDepth : Nat := 127

mutual

/-- Reads a value; `depth` more collections may be opened. The fuel bounds the parts that are
read, and a text has fewer parts than twice its length. -/
def readValue : Nat → Nat → List Char → Step Value
  | 0, _, cs => stopAt .endInValue cs
  | fuel + 1, depth, cs =>
    match skipBlanks cs with
    | [] => stopAt .endInValue []
    | 'n' :: rest => (readWord ['u', 'l', 'l'] rest).map fun left => (.null, left)
    | 't' :: rest => (readWord ['r', 'u', 'e'] rest).map fun left => (.bool true, left)
    | 'f' :: rest => (readWord ['a', 'l', 's', 'e'] rest).map fun left => (.bool false, left)
    | '-' :: rest => (readNumber true rest).map fun (n, left) => (.number n, left)
    | '"' :: rest =>
      (readString rest rest).map fun (s, left) => (.string (String.ofList s), left)
    | '[' :: rest =>
      match depth with
      -- The depth is judged at the bracket, before anything inside is read.
      | 0 => stopPast .tooDeep ('[' :: rest)
      | d + 1 => (readItems fuel d .opened rest).map fun (items, left) => (.array items, left)
    | '{' :: rest =>
      match depth with
      | 0 => stopPast .tooDeep ('{' :: rest)
      | d + 1 =>
        (readEntries fuel d .opened [] rest).map fun (entries, left) => (.object entries, left)
    | c :: rest =>
      if c.isDigit then (readNumber false (c :: rest)).map fun (n, left) => (.number n, left)
      else stopPast .expectedValue (c :: rest)

/-- Reads the items of a list up to its end. -/
def readItems : Nat → Nat → Place → List Char → Step (List Value)
  | 0, _, _, cs => stopAt .endInList cs
  | fuel + 1, depth, place, cs =>
    match nextItem place cs with
    | .error stop => .error stop
    | .ok none => .ok ([], (skipBlanks cs).drop 1)
    | .ok (some left) =>
      match readValue fuel depth left with
      | .error stop => .error stop
      | .ok (item, rest) =>
        (readItems fuel depth .filled rest).map fun (items, left) => (item :: items, left)

/-- Reads the entries of an object up to its end, into the ones that are known. -/
def readEntries : Nat → Nat → Place → List (String × Value) → List Char →
    Step (List (String × Value))
  | 0, _, _, _, cs => stopAt .endInObject cs
  | fuel + 1, depth, place, known, cs =>
    match nextKey place cs with
    | .error stop => .error stop
    | .ok none => .ok (known, (skipBlanks cs).drop 1)
    | .ok (some left) =>
      match readString left left with
      | .error stop => .error stop
      | .ok (key, afterKey) =>
        match readColon afterKey with
        | .error stop => .error stop
        | .ok afterColon =>
          match readValue fuel depth afterColon with
          | .error stop => .error stop
          | .ok (value, rest) =>
            -- The entries are kept in the order of their keys, and a later value replaces an
            -- earlier one.
            readEntries fuel depth .filled (insertKey (String.ofList key) value known) rest

end

/-- Reads a text that holds one value and nothing else. -/
def readText (cs : List Char) : Except Stop Value :=
  match readValue (2 * cs.length + 2) maxDepth cs with
  | .error stop => .error stop
  | .ok (value, rest) =>
    match skipBlanks rest with
    | [] => .ok value
    | left => stopPast .trailingCharacters left

/-- The value of a JSON text. -/
def parse (text : String) : Except Error Value :=
  (readText text.toList).mapError fun stop => stop.locate text.toList

end ToolPolicy.Json
