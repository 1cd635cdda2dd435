import ToolPolicy.Double.Layout
import ToolPolicy.Node.Text
import ToolPolicy.Number
import ToolPolicy.Text.Quoted

/-! Values of YAML texts, before merge keys are resolved and tags are dropped. -/

namespace ToolPolicy.Yaml

/-- A YAML value. Keys of mappings are values themselves, and no two keys of a mapping agree. -/
inductive Value where
  | null
  | bool (b : Bool)
  | number (n : Number)
  | string (s : String)
  | sequence (items : List Value)
  | mapping (entries : List (Value × Value))
  | tagged (tag : String) (value : Value)
deriving Inhabited

/-- Equality of numbers as keys: an integer never agrees with a double. -/
def sameNumberKey : Number → Number → Bool
  | .integer a, .integer b => a == b
  | .float a, .float b => a.sameKey b
  | _, _ => false

namespace Value

mutual

/-- Equality of keys; the order of entries does not matter. -/
def same : Value → Value → Bool
  | null, null => true
  | bool a, bool b => a == b
  | number a, number b => sameNumberKey a b
  | string a, string b => a == b
  | sequence a, sequence b => sameItems a b
  | mapping a, mapping b => a.length == b.length && sameEntries a b
  | tagged s a, tagged t b => s == t && same a b
  | _, _ => false

def sameItems : List Value → List Value → Bool
  | [], [] => true
  | a :: as, b :: bs => same a b && sameItems as bs
  | _, _ => false

/-- Every entry agrees with some entry on the other side. -/
def sameEntries : List (Value × Value) → List (Value × Value) → Bool
  | [], _ => true
  | (key, value) :: rest, entries =>
    entries.any (fun entry => same key entry.1 && same value entry.2) && sameEntries rest entries

end

mutual

/-- The tree of a value. Tags carry no meaning, and where two keys have one text the later entry
takes the place of the earlier one. -/
def toNode : Value → Node
  | null => .null
  | bool b => .bool b
  | number n => n.toNode
  | string s => .string s
  | sequence items => .sequence (itemNodes items)
  | mapping entries => .mapping (Entries.ofList (entryNodes entries))
  | tagged _ value => toNode value

def itemNodes : List Value → List Node
  | [] => []
  | item :: rest => toNode item :: itemNodes rest

/-- Entries under the display texts of their keys. -/
def entryNodes : List (Value × Value) → List (String × Node)
  | [] => []
  | (key, value) :: rest => ((toNode key).text, toNode value) :: entryNodes rest

end

/-- How a message names a key that occurs twice. -/
def keyDescription : Value → String
  | null => "with null key"
  | bool b => "with key \x60" ++ (if b then "true" else "false") ++ "\x60"
  | number (.integer n) => "with key " ++ Digits.int n
  | number (.float x) => "with key " ++ Double.yamlLayout.text x
  | string s => "with key " ++ Quoted.text s
  | sequence _ | mapping _ | tagged _ _ => "in YAML map"

end Value

end ToolPolicy.Yaml
