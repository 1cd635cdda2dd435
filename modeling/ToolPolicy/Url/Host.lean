import ToolPolicy.Text.Digits
import ToolPolicy.Text.Lower
import ToolPolicy.Text.Quoted
import ToolPolicy.Url.Fault
import ToolPolicy.Url.Percent
import ToolPolicy.Url.Punycode

/-! Hosts: domain names and addresses. -/

namespace ToolPolicy.Url

/-- The characters that no host may have. -/
def isForbidden (c : Char) : Bool :=
  ['\x00', ' ', '#', '/', ':', '<', '>', '?', '@', '[', '\\', ']', '^', '|'].contains c

/-- The characters that no domain name may have. -/
def isForbiddenInDomain (c : Char) : Bool :=
  isForbidden c || c == '%' || c.toNat < 0x20 || c.toNat == 0x7f

/-- The parts of a text between the characters that pass a test. -/
def splitWhere (isSeparator : Char → Bool) : List Char → List (List Char)
  | [] => [[]]
  | c :: rest =>
    match splitWhere isSeparator rest with
    | part :: parts => if isSeparator c then [] :: part :: parts else (c :: part) :: parts
    | [] => [[c]]

/-- A text has at least one part. -/
theorem splitWhere_ne_nil (isSeparator : Char → Bool) (cs : List Char) :
    splitWhere isSeparator cs ≠ [] := by
  cases cs with
  | nil => simp [splitWhere]
  | cons c rest =>
    rw [splitWhere]
    split
    · split <;> simp
    · simp

/-- The characters that a domain name does not count: soft hyphens, marks without width and
selectors of variants. -/
def ignoredRanges : List (Nat × Nat) :=
  [(0xad, 0xad), (0x34f, 0x34f), (0x180b, 0x180f), (0x200b, 0x200b), (0x2060, 0x2060),
    (0x2064, 0x2064), (0xfe00, 0xfe0f), (0xfeff, 0xfeff)]

/-- A character of a domain name in its plain form: lower case, of common width, with a point for a
full stop. -/
def plainForm (c : Char) : List Char :=
  if Quoted.within ignoredRanges c.toNat then []
  else if ['\u3002', '\uff0e', '\uff61'].contains c then ['.']
  else if 0xff01 ≤ c.toNat && c.toNat ≤ 0xff5e then Lower.ofChar (Char.ofNat (c.toNat - 0xfee0))
  else Lower.ofChar c

/-- Whether all characters are ASCII. -/
def isAscii (cs : List Char) : Bool := cs.all (·.toNat < 0x80)

/-- Whether a character beyond ASCII has no place in a domain name, because nothing is seen of it.
Joiners may stand, for they shape their neighbours. -/
def isUnfit (c : Char) : Bool :=
  !(['\u200c', '\u200d'].contains c) && 0x80 ≤ c.toNat &&
    Quoted.within Printable.hiddenRanges c.toNat

/-- Whether a label may be encoded; it must not start with a mark on a letter. -/
def isEncodable (label : List Char) : Bool :=
  !label.any isUnfit && !label.head?.any fun c => Quoted.within Printable.extendRanges c.toNat

/-- What marks a label as encoded. -/
def encodedMark : List Char := ['x', 'n', '-', '-']

/-- A label in ASCII. An encoded label must stand for one in plain form that is not ASCII. -/
def labelText (label : List Char) : Option (List Char) :=
  if !isAscii label then
    if isEncodable label then some (encodedMark ++ Punycode.encode label) else none
  else if encodedMark.isPrefixOf label then
    match Punycode.decode (label.drop 4) with
    | some decoded =>
      if isAscii decoded || decoded.flatMap plainForm != decoded || !isEncodable decoded then none
      else some label
    | none => none
  else some label

/-- A domain name in ASCII and in lower case. -/
def domainText (cs : List Char) : Except Fault (List Char) :=
  match Utf8.decode (Percent.decode cs) with
  | .error _ => .error .invalidDomain
  | .ok text =>
    let plain := text.toList.flatMap plainForm
    -- Characters are judged in plain form: a wide solidus is forbidden as a solidus is.
    if plain.any isForbiddenInDomain then .error .invalidDomain
    else
      match (splitWhere (· == '.') plain).mapM labelText with
      | some labels => .ok (['.'].intercalate labels)
      | none => .error .invalidDomain

/-- The number of a part of an address: octal after a zero, hexadecimal after a zero and an x. -/
def addressNumber? (part : List Char) : Option Nat :=
  let read (base : Nat) (digits : List Char) : Option Nat :=
    digits.foldlM (fun n c => do
      let d ← Percent.digit? c
      if d < base then return n * base + d else none) 0
  match part with
  | [] => none
  -- A zero and an x without digits are a zero.
  | '0' :: 'x' :: digits | '0' :: 'X' :: digits => read 16 digits
  | '0' :: d :: digits => read 8 (d :: digits)
  | digits => read 10 digits

/-- The last part of a domain name, the one before it where the last is empty. -/
def lastPart (domain : List Char) : List Char :=
  match (splitWhere (· == '.') domain).reverse with
  | [] => []
  | [] :: second :: _ => second
  | last :: _ => last

/-- Whether a domain name must be an address, because its last part is a number. -/
def endsInNumber (domain : List Char) : Bool :=
  let last := lastPart domain
  (!last.isEmpty && last.all Char.isDigit) || (addressNumber? last).isSome

/-- The four bytes of an address whose last part may stand for several of them. -/
def ipv4? (domain : List Char) : Option (List Nat) := do
  let parts := splitWhere (· == '.') domain
  -- A point at the end is passed over.
  let parts := if parts.getLast? = some [] then parts.dropLast else parts
  if 4 < parts.length then none
  else
    let numbers ← parts.mapM addressNumber?
    let last ← numbers.getLast?
    let leading := numbers.dropLast
    if leading.any (255 < ·) || Nat.pow 256 (4 - leading.length) ≤ last then none
    else
      let width := 4 - leading.length
      return leading ++ (List.range width).map fun i => last / Nat.pow 256 (width - 1 - i) % 256

/-- The pieces of an address before and after the gap that two colons leave. -/
structure Pieces where
  before : List Nat
  after : Option (List Nat)

namespace Pieces

def count (p : Pieces) : Nat := p.before.length + ((p.after.map (·.length + 1)).getD 0)

def push (p : Pieces) (n : Nat) : Pieces :=
  match p.after with
  | some after => { p with after := some (after ++ [n]) }
  | none => { p with before := p.before ++ [n] }

/-- All eight pieces, with zeros in the gap. -/
def fill? (p : Pieces) : Option (List Nat) :=
  match p.after with
  | some after =>
    if p.before.length + after.length ≤ 7 then
      some (p.before ++ List.replicate (8 - p.before.length - after.length) 0 ++ after)
    else none
  | none => if p.before.length = 8 then some p.before else none

end Pieces

/-- A byte in decimal digits without a leading zero. -/
def decimalByte? (cs : List Char) : Option Nat :=
  if cs.isEmpty || !cs.all Char.isDigit || (1 < cs.length && cs.head? == some '0') then none
  else
    let n := Digits.toNat cs
    if n ≤ 255 then some n else none

/-- The two pieces of four bytes at the end of an address. -/
def embeddedIpv4? (cs : List Char) : Option (List Nat) := do
  match ← (splitWhere (· == '.') cs).mapM decimalByte? with
  | [a, b, c, d] => return [a * 256 + b, c * 256 + d]
  | _ => none

/-- The value of hexadecimal digits. -/
def hexNumber (cs : List Char) : Nat := cs.foldl (fun n c => n * 16 + (Percent.digit? c).getD 0) 0

/-- Reads the pieces of an address. The fuel is more than the characters left. -/
def readPieces : Nat → Pieces → List Char → Option Pieces
  | 0, _, _ => none
  | _ + 1, p, [] => some p
  | fuel + 1, p, c :: rest =>
    if p.count = 8 then none
    else if c = ':' then
      if p.after.isSome then none else readPieces fuel { p with after := some [] } rest
    else
      let cs := c :: rest
      -- After at most four digits a colon, a point or the end must come.
      let digits := (cs.take 4).takeWhile fun d => (Percent.digit? d).isSome
      match cs.drop digits.length with
      | [] => some (p.push (hexNumber digits))
      | '.' :: _ =>
        if digits.isEmpty || 6 < p.count then none
        else (embeddedIpv4? cs).map fun pair => pair.foldl Pieces.push p
      | [':'] => none
      | ':' :: more => readPieces fuel (p.push (hexNumber digits)) more
      | _ => none

/-- The eight pieces of an address. -/
def ipv6? (cs : List Char) : Option (List Nat) := do
  let p ← match cs with
    | [] | [_] => none
    | ':' :: ':' :: rest => readPieces (rest.length + 1) ⟨[], some []⟩ rest
    | ':' :: _ => none
    | cs => readPieces (cs.length + 1) ⟨[], none⟩ cs
  p.fill?

/-- The length of the run of zeros at the start of pieces. -/
def zeroRun (pieces : List Nat) : Nat := (pieces.takeWhile (· == 0)).length

/-- The first of the longest runs of at least two zeros: where it starts and its length. -/
def longestRun (pieces : List Nat) : Option (Nat × Nat) :=
  let runs := (List.range pieces.length).map fun i => (i, zeroRun (pieces.drop i))
  let longest := (runs.map Prod.snd).foldl max 0
  if longest < 2 then none else runs.find? (·.2 == longest)

/-- Pieces with colons between them. -/
def piecesText (pieces : List Nat) : List Char := [':'].intercalate (pieces.map Quoted.hex)

/-- The text of an address: two colons stand for the first of its longest runs of zeros. -/
def ipv6Text (pieces : List Nat) : List Char :=
  let inner := match longestRun pieces with
    | some (start, length) =>
      piecesText (pieces.take start) ++ [':', ':'] ++ piecesText (pieces.drop (start + length))
    | none => piecesText pieces
  ['['] ++ inner ++ [']']

/-- The address between brackets. -/
def bracketedHost (cs : List Char) : Except Fault (List Char) :=
  if cs.getLast? = some ']' then
    match ipv6? (cs.drop 1).dropLast with
    | some pieces => .ok (ipv6Text pieces)
    | none => .error .invalidIpv6
  else .error .invalidIpv6

/-- The host of a URL whose scheme is for the web or the like. -/
def specialHost (cs : List Char) : Except Fault (List Char) :=
  if cs.head? = some '[' then bracketedHost cs
  else do
    let domain ← domainText cs
    if domain.isEmpty then .error .emptyHost
    else if endsInNumber domain then
      match ipv4? domain with
      | some bytes => return ['.'].intercalate (bytes.map Digits.ofNat)
      | none => .error .invalidIpv4
    else return domain

/-- The host of any other URL, which may be any text but for some characters. -/
def opaqueHost (cs : List Char) : Except Fault (List Char) :=
  if cs.head? = some '[' then bracketedHost cs
  else if cs.any isForbidden then .error .invalidHostChar
  else .ok (Percent.encode [] cs)

end ToolPolicy.Url
