import ToolPolicy.Double.Layout
import ToolPolicy.Node.Basic

/-! Display text of nodes: strings as they are, everything else in flow style. -/

namespace ToolPolicy.Node

/-- Parts with a comma and a blank between them. -/
def commaSeparated : List String → String
  | [] => ""
  | [part] => part
  | part :: rest => part ++ ", " ++ commaSeparated rest

mutual

/-- The display text of a node. -/
def text : Node → String
  | null => "null"
  | bool b => if b then "true" else "false"
  | int n => Digits.int n.toInt
  | float x => Double.displayLayout.text x
  | string s => s
  | sequence items => "[" ++ commaSeparated (itemTexts items) ++ "]"
  | mapping entries => "\x7b" ++ commaSeparated (entryTexts entries) ++ "\x7d"

/-- The texts of the items of a sequence. -/
def itemTexts : List Node → List String
  | [] => []
  | item :: rest => text item :: itemTexts rest

/-- The texts of the entries of a mapping. -/
def entryTexts : List (String × Node) → List String
  | [] => []
  | (key, value) :: rest => (key ++ ": " ++ text value) :: entryTexts rest

end

/-- A string is shown as it is. -/
@[simp] theorem text_string (s : String) : (string s).text = s := by rw [text]

/-- The display text of a value that may be absent; absence has no text. -/
def textOr : Option Node → String
  | some n => n.text
  | none => ""

end ToolPolicy.Node
