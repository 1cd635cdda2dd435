import ToolPolicy.Content
import ToolPolicy.Double.Layout
import ToolPolicy.Text.Quoted

/-! JSON text, on one line or with one line per element. -/

namespace ToolPolicy.Json

/-- A character as it stands in a JSON string. -/
def escape (c : Char) : List Char :=
  match c with
  | '"' => ['\\', '"']
  | '\\' => ['\\', '\\']
  | '\n' => ['\\', 'n']
  | '\r' => ['\\', 'r']
  | '\t' => ['\\', 't']
  | '\x08' => ['\\', 'b']
  | '\x0c' => ['\\', 'f']
  | c =>
    if c.toNat < 0x20 then
      ['\\', 'u', '0', '0', Nat.digitChar (c.toNat / 16), Nat.digitChar (c.toNat % 16)]
    else [c]

/-- A JSON string. -/
def quote (s : String) : String := String.ofList ('"' :: s.toList.flatMap escape ++ ['"'])

/-- The text of a scalar or of an empty collection. -/
def scalarText : Content → String
  | .null => "null"
  | .bool b => if b then "true" else "false"
  | .int n => Digits.int n
  | .float x => if x.isFinite then Double.jsonLayout.text x else "null"
  | .string s => quote s
  | .sequence _ => "[]"
  | .mapping _ => "\x7b\x7d"

mutual

/-- Text without any blanks. -/
def compact : Content → String
  | .sequence items => "[" ++ String.intercalate "," (compactItems items) ++ "]"
  | .mapping entries => "\x7b" ++ String.intercalate "," (compactEntries entries) ++ "\x7d"
  | scalar => scalarText scalar

def compactItems : List Content → List String
  | [] => []
  | item :: rest => compact item :: compactItems rest

def compactEntries : List (String × Content) → List String
  | [] => []
  | (key, value) :: rest => (quote key ++ ":" ++ compact value) :: compactEntries rest

end

/-- A line break and the indentation after it. -/
def lineStart (depth : Nat) : String := String.ofList ('\n' :: List.replicate (2 * depth) ' ')

/-- Elements between brackets, each on a line of its own. -/
def bracketed (opening closing : String) (depth : Nat) (elements : List String) : String :=
  opening ++ lineStart (depth + 1) ++
    String.intercalate ("," ++ lineStart (depth + 1)) elements ++ lineStart depth ++ closing

mutual

/-- Text with every element on a line of its own, indented by two blanks per level. -/
def pretty (depth : Nat) : Content → String
  | .sequence (item :: rest) =>
    bracketed "[" "]" depth (pretty (depth + 1) item :: prettyItems (depth + 1) rest)
  | .mapping ((key, value) :: rest) =>
    bracketed "\x7b" "\x7d" depth
      ((quote key ++ ": " ++ pretty (depth + 1) value) :: prettyEntries (depth + 1) rest)
  | scalar => scalarText scalar

def prettyItems (depth : Nat) : List Content → List String
  | [] => []
  | item :: rest => pretty depth item :: prettyItems depth rest

def prettyEntries (depth : Nat) : List (String × Content) → List String
  | [] => []
  | (key, value) :: rest =>
    (quote key ++ ": " ++ pretty depth value) :: prettyEntries depth rest

end

end ToolPolicy.Json
