import ToolPolicy.Content
import ToolPolicy.Json.Text
import ToolPolicy.Number

/-! Values of JSON texts. -/

namespace ToolPolicy.Json

/-- A JSON value. The entries of an object are in the order of their keys. -/
inductive Value where
  | null
  | bool (b : Bool)
  | number (n : Number)
  | string (s : String)
  | array (items : List Value)
  | object (entries : List (String × Value))
deriving Inhabited

/-- Puts an entry in the place that its key has in the order; a known key takes the new value. -/
def insertKey {α : Type} (key : String) (value : α) : List (String × α) → List (String × α)
  | [] => [(key, value)]
  | entry :: rest =>
    if key = entry.1 then (key, value) :: rest
    else if key < entry.1 then (key, value) :: entry :: rest
    else entry :: insertKey key value rest

namespace Value

mutual

/-- The tree of a JSON value. -/
def toNode : Value → Node
  | null => .null
  | bool b => .bool b
  | number n => n.toNode
  | string s => .string s
  | array items => .sequence (itemNodes items)
  | object entries => .mapping (entryNodes entries)

def itemNodes : List Value → List Node
  | [] => []
  | item :: rest => toNode item :: itemNodes rest

def entryNodes : List (String × Value) → List (String × Node)
  | [] => []
  | (key, value) :: rest => (key, toNode value) :: entryNodes rest

end

mutual

/-- A value as it is written. -/
def toContent : Value → Content
  | null => .null
  | bool b => .bool b
  | number (.integer n) => .int n
  | number (.float x) => .float x
  | string s => .string s
  | array items => .sequence (itemContents items)
  | object entries => .mapping (entryContents entries)

def itemContents : List Value → List Content
  | [] => []
  | item :: rest => toContent item :: itemContents rest

def entryContents : List (String × Value) → List (String × Content)
  | [] => []
  | (key, value) :: rest => (key, toContent value) :: entryContents rest

end

/-- A value that is neither null nor absent. -/
def notNull : Value → Option Value
  | null => none
  | v => some v

/-- How a message names a value of the wrong kind. -/
def description : Value → String
  | null => "null"
  | bool b => "boolean \x60" ++ (if b then "true" else "false") ++ "\x60"
  | number (.integer n) => "integer \x60" ++ Digits.int n ++ "\x60"
  | number (.float x) => "floating point \x60" ++ Double.jsonLayout.text x ++ "\x60"
  | string s => "string " ++ Quoted.text s
  | array _ => "sequence"
  | object _ => "map"

end Value

end ToolPolicy.Json
