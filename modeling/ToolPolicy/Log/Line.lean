import ToolPolicy.CommandLine.Command
import ToolPolicy.Content
import ToolPolicy.Json.Text
import ToolPolicy.Log.Filter

/-! Events as lines of text. -/

namespace ToolPolicy.Log

/-- How events are written. -/
structure Layout where
  format : OutputFormat
  showsComponent : Bool
  /-- Whether lines for people have colors; those for programs never do. -/
  hasColor : Bool
deriving DecidableEq, Repr

/-- The codes by which terminals show text in a certain way. -/
def dim : String := "2"

def slanted : String := "3"

def Level.color : Level → String
  | .trace => "35"
  | .debug => "34"
  | .info => "32"
  | .warn => "33"
  | .error => "31"

namespace Layout

/-- A text as a terminal shows it by a code. -/
def paint (l : Layout) (code text : String) : String :=
  if l.hasColor then "\x1b[" ++ code ++ "m" ++ text ++ "\x1b[0m" else text

/-- A character of a message. Those that steer terminals are shown by their codes. -/
def visible (c : Char) : List Char :=
  match c with
  | '\x07' => ['\\', 'x', '0', '7']
  | '\x08' => ['\\', 'x', '0', '8']
  | '\x0c' => ['\\', 'x', '0', 'c']
  | '\x1b' => ['\\', 'x', '1', 'b']
  | '\x7f' => ['\\', 'x', '7', 'f']
  | c =>
    if 0x80 ≤ c.toNat && c.toNat ≤ 0x9f then
      ['\\', 'u', '\x7b', Nat.digitChar (c.toNat / 16), Nat.digitChar (c.toNat % 16), '\x7d']
    else [c]

/-- The name of a level, in five columns. -/
def levelText (level : Level) : String :=
  String.ofList (List.replicate (5 - level.name.length) ' ') ++ level.name

def valueText : FieldValue → String
  | .text s => s
  | .number n => Digits.nat n

def fieldText (l : Layout) (field : String × FieldValue) : String :=
  " " ++ l.paint slanted field.1 ++ l.paint dim "=" ++ valueText field.2

def componentText (l : Layout) (e : Event) : String :=
  if l.showsComponent then l.paint dim e.component ++ l.paint dim ":" ++ " " else ""

/-- An event for people. -/
def humanLine (l : Layout) (time : String) (e : Event) : String :=
  l.paint dim time ++ " " ++ l.paint e.level.color (levelText e.level) ++ " " ++
    l.componentText e ++ String.ofList (e.message.toList.flatMap visible) ++
    String.join (e.fields.map l.fieldText)

def valueContent : FieldValue → Content
  | .text s => .string s
  | .number n => .int n

/-- An event for programs. -/
def jsonLine (l : Layout) (time : String) (e : Event) : String :=
  Json.compact (.mapping (
    [("timestamp", .string time), ("level", .string e.level.name),
      (messageField, .string e.message)] ++
    -- Fields stand beside the message, and not in an object of their own.
    e.fields.map (fun (name, value) => (name, valueContent value)) ++
    (if l.showsComponent then [("target", .string e.component)] else [])))

/-- The line of an event. -/
def line (l : Layout) (time : String) (e : Event) : String :=
  match l.format with
  | .human => l.humanLine time e
  | .json => l.jsonLine time e

end Layout

end ToolPolicy.Log
