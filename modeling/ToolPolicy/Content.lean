import ToolPolicy.Node.Basic

/-! What is written to YAML and JSON: scalars, sequences, and mappings in the order of their
fields. -/

namespace ToolPolicy

/-- Data on its way out. Integers are not bound to the range of nodes. -/
inductive Content where
  | null
  | bool (b : Bool)
  | int (n : Int)
  | float (x : Double)
  | string (s : String)
  | sequence (items : List Content)
  | mapping (entries : List (String × Content))
deriving Inhabited

namespace Content

/-- A text, or null where there is none. -/
def optional : Option String → Content
  | some s => string s
  | none => null

end Content

namespace Node

mutual

/-- A node as it is written. -/
def content : Node → Content
  | null => .null
  | bool b => .bool b
  | int n => .int n.toInt
  | float x => .float x
  | string s => .string s
  | sequence items => .sequence (itemContents items)
  | mapping entries => .mapping (entryContents entries)

def itemContents : List Node → List Content
  | [] => []
  | item :: rest => content item :: itemContents rest

def entryContents : List (String × Node) → List (String × Content)
  | [] => []
  | (key, value) :: rest => (key, content value) :: entryContents rest

end

end Node

end ToolPolicy
