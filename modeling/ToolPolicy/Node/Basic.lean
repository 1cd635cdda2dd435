import ToolPolicy.Double.Basic
import ToolPolicy.Node.Entries

/-! The data tree that policy files, exports and test inputs are read into. -/

namespace ToolPolicy

/-- A structured value. The keys of a mapping are distinct and keep their order. -/
inductive Node where
  | null
  | bool (b : Bool)
  | int (n : Int64)
  | float (x : Double)
  | string (s : String)
  | sequence (items : List Node)
  | mapping (entries : List (String × Node))
deriving Inhabited

namespace Node

/-- The value under a key of a mapping. -/
def get? : Node → String → Option Node
  | mapping entries, key => entries.lookup key
  | _, _ => none

def asBool? : Node → Option Bool
  | bool b => some b
  | _ => none

def asInt? : Node → Option Int64
  | int n => some n
  | _ => none

def asString? : Node → Option String
  | string s => some s
  | _ => none

def items? : Node → Option (List Node)
  | sequence items => some items
  | _ => none

def entries? : Node → Option (List (String × Node))
  | mapping entries => some entries
  | _ => none

/-- Only a sequence has items. -/
theorem items?_eq_some_iff {n : Node} {items : List Node} :
    n.items? = some items ↔ n = sequence items := by
  cases n <;> simp [items?]

/-- Only an integer is read as one. -/
theorem asInt?_eq_some_iff {n : Node} {i : Int64} : n.asInt? = some i ↔ n = int i := by
  cases n <;> simp [asInt?]

/-- Only a truth value is read as one. -/
theorem asBool?_eq_some_iff {n : Node} {b : Bool} : n.asBool? = some b ↔ n = bool b := by
  cases n <;> simp [asBool?]

/-- Only a string is read as a text. -/
theorem asString?_eq_some_iff {n : Node} {text : String} :
    n.asString? = some text ↔ n = string text := by
  cases n <;> simp [asString?]

/-- Only a mapping has something under a key. -/
theorem get?_eq_some_iff (n : Node) (key : String) (value : Node) :
    n.get? key = some value ↔ ∃ entries, n = mapping entries ∧ entries.lookup key = some value := by
  cases n <;> simp [get?]

/-- Whether the node is the value `true`. -/
def isTrue (n : Node) : Bool := n.asBool? == some true

/-- Empty values, zero, `false` and null count as missing. -/
def isPresent : Node → Bool
  | null => false
  | bool b => b
  | int n => n != 0
  | float x => !x.isZero
  | string s => s != ""
  | sequence items => !items.isEmpty
  | mapping entries => !entries.isEmpty

/-- The value under a key, unless it counts as missing. -/
def getPresent? (n : Node) (key : String) : Option Node := (n.get? key).filter isPresent

/-- The name of the kind of a node. -/
def typeName : Node → String
  | null => "null"
  | bool _ => "bool"
  | int _ => "integer"
  | float _ => "float"
  | string _ => "string"
  | sequence _ => "sequence"
  | mapping _ => "mapping"

mutual

/-- Equality of data: numbers compare as numbers, and the order of keys does not matter. -/
def same : Node → Node → Bool
  | null, null => true
  | bool a, bool b => a == b
  | int a, int b => a == b
  | float a, float b => a.sameNumber b
  | string a, string b => a == b
  | sequence a, sequence b => sameItems a b
  | mapping a, mapping b => a.length == b.length && sameEntries a b
  | _, _ => false

/-- Items agree one by one. -/
def sameItems : List Node → List Node → Bool
  | [], [] => true
  | a :: as, b :: bs => same a b && sameItems as bs
  | _, _ => false

/-- Every entry has an equal value under its key on the other side. -/
def sameEntries : List (String × Node) → List (String × Node) → Bool
  | [], _ => true
  | (key, a) :: rest, entries =>
    (match entries.lookup key with
      | some b => same a b
      | none => false) && sameEntries rest entries

end

end Node

end ToolPolicy
