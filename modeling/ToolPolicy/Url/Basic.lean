import ToolPolicy.Url.Host

/-! URLs of the web. -/

namespace ToolPolicy

/-- A URL with its parts as they are written. -/
structure Url where
  scheme : String
  user : List Char
  password : List Char
  host : List Char
  port : Option Nat
  path : List (List Char)
  query : Option (List Char)
  fragment : Option (List Char)
deriving DecidableEq, Repr

namespace Url

/-- What a text is the address of. -/
inductive Address where
  | web (u : Url)
  | other (scheme : String)
deriving DecidableEq, Repr

/-- The kinds of schemes: for the web and the like, for files, and all others. -/
inductive SchemeKind where
  | special
  | file
  | opaqueKind
deriving DecidableEq, Repr

def kindOf (scheme : String) : SchemeKind :=
  if ["http", "https", "ws", "wss", "ftp"].contains scheme then .special
  else if scheme = "file" then .file
  else .opaqueKind

/-- The port that need not be named. -/
def defaultPort? (scheme : String) : Option Nat :=
  match scheme with
  | "http" | "ws" => some 80
  | "https" | "wss" => some 443
  | "ftp" => some 21
  | _ => none

/-- A text without control characters and blanks at its ends, and without tabs and line breaks. -/
def clean (cs : List Char) : List Char :=
  let trimmed := (cs.dropWhile (·.toNat ≤ 0x20)).reverse.dropWhile (·.toNat ≤ 0x20)
  trimmed.reverse.filter fun c => c != '\t' && c != '\n' && c != '\r'

/-- Splits the scheme off. -/
def splitScheme? (cs : List Char) : Option (String × List Char) :=
  let name := cs.takeWhile (· != ':')
  let fits (c : Char) : Bool := c.isAlphanum || c == '+' || c == '-' || c == '.'
  match cs.drop name.length with
  | ':' :: rest =>
    if name.all fits && name.head?.any Char.isAlpha then
      some (String.ofList (name.map Char.toLower), rest)
    else none
  | _ => none

/-- A character that separates the segments of a path. -/
def isSlash (kind : SchemeKind) (c : Char) : Bool := c == '/' || (c == '\\' && kind != .opaqueKind)

/-- A character that ends an authority. -/
def endsAuthority (kind : SchemeKind) (c : Char) : Bool := isSlash kind c || c == '?' || c == '#'

/-- The part of an authority before its last at sign, if it has one, and the part after it. -/
def splitUser (authority : List Char) : Option (List Char) × List Char :=
  if authority.contains '@' then
    -- A password may hold at signs, so the last one counts.
    let after := (authority.reverse.takeWhile (· != '@')).reverse
    (some (authority.take (authority.length - after.length - 1)), after)
  else (none, authority)

/-- The length of a host: colons end it, but not between brackets. -/
def hostLength (inBrackets : Bool) : List Char → Nat
  | [] => 0
  | c :: rest =>
    if c = ':' && !inBrackets then 0
    else 1 + hostLength (if c = '[' then true else if c = ']' then false else inBrackets) rest

/-- Reads a port after its colon; the one that need not be named counts as none. -/
def readPort (scheme : String) (cs : List Char) : Except Fault (Option Nat) :=
  if !cs.all Char.isDigit then .error .invalidPort
  else
    let n := Digits.toNat cs
    if 65535 < n then .error .invalidPort
    else .ok (if cs.isEmpty || some n == defaultPort? scheme then none else some n)

/-- A host with its port. -/
structure Server where
  host : List Char
  port : Option Nat

/-- Reads a host and its port. -/
def readServer (kind : SchemeKind) (scheme : String) (cs : List Char) : Except Fault Server := do
  let length := hostLength false cs
  let name := cs.take length
  let rest := cs.drop length
  -- Only a URL of another kind may go without a host, and then without a port.
  if name.isEmpty && (kind == .special || !rest.isEmpty) then .error .emptyHost
  else
    let host ← if kind == .special then specialHost name else opaqueHost name
    return ⟨host, ← readPort scheme (rest.drop 1)⟩

/-- What comes before a server: a name and a password. -/
structure Credentials where
  user : List Char
  password : List Char

/-- Reads a name and a password with a colon between them. -/
def readCredentials (cs : List Char) : Credentials :=
  let user := cs.takeWhile (· != ':')
  ⟨Percent.encode Percent.userChars user,
    Percent.encode Percent.userChars (cs.drop (user.length + 1))⟩

/-- Reads an authority. -/
def readAuthority (kind : SchemeKind) (scheme : String) (cs : List Char) :
    Except Fault (Credentials × Server) := do
  let (user, server) := splitUser cs
  let credentials := readCredentials (user.getD [])
  let read ← readServer kind scheme server
  let isNamed := !(credentials.user.isEmpty && credentials.password.isEmpty)
  if read.host.isEmpty && (user == some [] || isNamed) then .error .emptyHost
  else return (credentials, read)

/-- Whether a segment stands for the one it is in. -/
def isSingleDot (segment : List Char) : Bool :=
  ["." , "%2e"].contains (String.ofList (segment.map Char.toLower))

/-- Whether a segment stands for the one above. -/
def isDoubleDot (segment : List Char) : Bool :=
  ["..", ".%2e", "%2e.", "%2e%2e"].contains (String.ofList (segment.map Char.toLower))

/-- The path after further segments; dots at its end leave it open. -/
def addSegments (path : List (List Char)) : List (List Char) → List (List Char)
  | [] => path
  | segment :: rest =>
    let isLast := rest.isEmpty
    let path :=
      -- At the top there is no segment to drop.
      if isDoubleDot segment then path.dropLast ++ (if isLast then [[]] else [])
      else if isSingleDot segment then path ++ (if isLast then [[]] else [])
      else path ++ [segment]
    addSegments path rest

/-- Segments that are not dots are added as they are. -/
theorem addSegments_eq_append {segments : List (List Char)}
    (plain : ∀ segment ∈ segments, isSingleDot segment = false ∧ isDoubleDot segment = false)
    (path : List (List Char)) : addSegments path segments = path ++ segments := by
  induction segments generalizing path with
  | nil => rw [addSegments, List.append_nil]
  | cons segment rest ih =>
    obtain ⟨notSingle, notDouble⟩ := plain segment List.mem_cons_self
    rw [addSegments, ih fun other member => plain other (List.mem_cons_of_mem _ member)]
    simp [notSingle, notDouble]

/-- The path of a text, below a path. -/
def pathBelow (kind : SchemeKind) (above : List (List Char)) (cs : List Char) : List (List Char) :=
  addSegments above ((splitWhere (isSlash kind) cs).map (Percent.encode Percent.pathChars))

/-- The text after the first of a character, if there is one, and the text before it. -/
def splitAfter (mark : Char) (cs : List Char) : List Char × Option (List Char) :=
  let before := cs.takeWhile (· != mark)
  (before, if before.length < cs.length then some (cs.drop (before.length + 1)) else none)

/-- Reads what follows the scheme of a URL for the web or the like. -/
def readSpecial (scheme : String) (cs : List Char) : Except Fault Url := do
  -- Any number of slashes may stand before the authority, backslashes among them.
  let cs := cs.dropWhile (isSlash .special)
  let authority := cs.takeWhile (!endsAuthority .special ·)
  let (credentials, server) ← readAuthority .special scheme authority
  let rest := cs.drop authority.length
  let (rest, fragment) := splitAfter '#' rest
  let (path, query) := splitAfter '?' rest
  return {
    scheme := scheme
    user := credentials.user
    password := credentials.password
    host := server.host
    port := server.port
    path := pathBelow .special [] (if path.head?.any (isSlash .special) then path.drop 1 else path)
    query := query.map (Percent.encode Percent.queryChars)
    fragment := fragment.map (Percent.encode Percent.fragmentChars) }

/-- Whether a text names a drive. -/
def isDrive (cs : List Char) : Bool :=
  match cs with
  | [letter, mark] => letter.isAlpha && (mark == ':' || mark == '|')
  | _ => false

/-- Checks the host of a URL for files, which may be missing. -/
def checkFile (cs : List Char) : Except Fault Unit :=
  match cs with
  | a :: b :: rest =>
    if isSlash .file a && isSlash .file b then
      let host := rest.takeWhile (!endsAuthority .file ·)
      if host.isEmpty || isDrive host then .ok () else (specialHost host).map fun _ => ()
    else .ok ()
  | _ => .ok ()

/-- Checks the authority of any other URL, which may be missing. -/
def checkOpaque (scheme : String) (cs : List Char) : Except Fault Unit :=
  match cs with
  | '/' :: '/' :: rest =>
    let authority := rest.takeWhile (!endsAuthority .opaqueKind ·)
    (readAuthority .opaqueKind scheme authority).map fun _ => ()
  | _ => .ok ()

/-- Reads an address. -/
def parse (text : String) : Except Fault Address :=
  match splitScheme? (clean text.toList) with
  | none => .error .noScheme
  | some (scheme, rest) =>
    match kindOf scheme with
    | .special => do
      let u ← readSpecial scheme rest
      return if scheme = "http" ∨ scheme = "https" then .web u else .other scheme
    | .file => (checkFile rest).map fun _ => .other scheme
    | .opaqueKind => (checkOpaque scheme rest).map fun _ => .other scheme

/-- The text of a URL. -/
def text (u : Url) : String :=
  let user :=
    if u.user.isEmpty && u.password.isEmpty then []
    else u.user ++ (if u.password.isEmpty then [] else ':' :: u.password) ++ ['@']
  let port := match u.port with
    | some n => ':' :: Digits.ofNat n
    | none => []
  let part (mark : Char) (cs : Option (List Char)) : List Char :=
    match cs with
    | some cs => mark :: cs
    | none => []
  u.scheme ++ "://" ++ String.ofList (
    user ++ u.host ++ port ++ u.path.flatMap ('/' :: ·) ++ part '?' u.query ++ part '#' u.fragment)

/-- The URL of a path that takes the place of the last segment of another one. -/
def join (u : Url) (path : String) : Url :=
  { u with
    path := pathBelow .special u.path.dropLast path.toList
    query := none
    fragment := none }

end Url

end ToolPolicy
