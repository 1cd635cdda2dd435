import ToolPolicy.Loader.Fault
import ToolPolicy.Text.Blank
import ToolPolicy.Text.Utf8
import ToolPolicy.Yaml.Parser

/-! Reading policy files into data trees. The shape of a document is not judged here: an empty text
is null. -/

namespace ToolPolicy.Loader

/-- The greatest number of bytes of a file, where no other limit is set. -/
def defaultLimit : Nat := 10 * 0x100000

/-- The name by which texts go that do not come from a file. -/
def memoryPath : String := "<memory>"

/-- Whether a line has no content of its own. -/
def isBlankLine (line : List Char) : Bool :=
  match Blank.trim line with
  | [] | '#' :: _ => true
  | line => line = ['-', '-', '-'] || line = ['.', '.', '.']

/-- Whether a text has only blank lines, comments and document markers. -/
def isBlankText (cs : List Char) : Bool := (Blank.lines cs).all isBlankLine

/-- A text without the byte order mark that may begin it. -/
def dropMark : List Char → List Char
  | '\uFEFF' :: rest => rest
  | cs => cs

/-- The value of a text with its merge keys resolved. -/
def valueOf (cs : List Char) : Except Yaml.Fault Yaml.Value := do
  let value ← Yaml.parse cs
  -- Merge keys are resolved in the whole tree at once, after the aliases have been replaced.
  value.merge

/-- Reads a text that goes by a path. -/
def parse (text path : String) : Except LoadFault Node :=
  let cs := dropMark text.toList
  -- Such a text is not given to the parser, which could make several empty documents of its
  -- markers.
  if isBlankText cs then .ok .null
  else
    match valueOf cs with
    | .ok value => .ok value.toNode
    | .error fault => .error (.malformed path fault.line? fault.message)

/-- Lets through what is within a limit. -/
def checkSize (size limit : Nat) : Except LoadFault Unit :=
  if limit < size then .error (.oversize size limit) else .ok ()

/-- Reads a text. -/
def loadText (limit : Nat) (text : String) : Except LoadFault Node := do
  checkSize text.utf8ByteSize limit
  parse text memoryPath

/-- What stands at a path. -/
inductive FileEntry where
  | file (bytes : List UInt8)
  | directory
deriving DecidableEq, Repr

/-- The text of a file. -/
def decodeBytes (limit : Nat) (path : String) (bytes : List UInt8) : Except LoadFault String := do
  -- The size is judged before the bytes are, so that what is too large is never decoded.
  checkSize bytes.length limit
  match Utf8.decode bytes with
  | .ok text => .ok text
  | .error fault =>
    .error (.malformed path none ("file is not valid UTF-8: " ++ fault.message))

/-- The text of what stands at a path. -/
def readText (limit : Nat) (path : String) (entry : Option FileEntry) : Except LoadFault String :=
  match entry with
  | some (.file bytes) => decodeBytes limit path bytes
  | some .directory | none => .error (.missingFile path)

/-- Reads what stands at a path. -/
def load (limit : Nat) (path : String) (entry : Option FileEntry) : Except LoadFault Node := do
  parse (← readText limit path entry) path

/-- The variable that sets the limit. -/
def limitVariable : String := "GUARDRAILGEN_MAX_POLICY_SIZE"

/-- The limit that a variable sets, unless it is no number of bytes that memory can hold. -/
def limitOf (value : Option String) : Nat :=
  let size? := value.bind fun text => Digits.unsigned? text.toList
  -- A limit that cannot be read is not reported: the default takes its place.
  (size?.filter (· < 0x10000000000000000)).getD defaultLimit

end ToolPolicy.Loader
