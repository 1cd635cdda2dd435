/-! What happens during a run, for those who want to follow it. -/

namespace ToolPolicy.Log

/-- How much an event matters, the most first. -/
inductive Level where
  | error
  | warn
  | info
  | debug
  | trace
deriving DecidableEq, Repr

namespace Level

def all : List Level := [error, warn, info, debug, trace]

/-- The place of a level, from one on; a threshold of zero lets nothing through. -/
def rank : Level → Nat
  | error => 1
  | warn => 2
  | info => 3
  | debug => 4
  | trace => 5

def name : Level → String
  | error => "ERROR"
  | warn => "WARN"
  | info => "INFO"
  | debug => "DEBUG"
  | trace => "TRACE"

/-- The level up to which a run is followed by its verbosity. -/
def ofVerbosity : Nat → Level
  | 0 => warn
  | 1 => info
  | 2 => debug
  | _ => trace

end Level

/-- The value of a field of an event. -/
inductive FieldValue where
  | text (s : String)
  | number (n : Nat)
deriving DecidableEq, Repr

/-- An event in a part of the program. -/
structure Event where
  level : Level
  /-- The part of the program, as a path. -/
  component : String
  message : String
  fields : List (String × FieldValue)
deriving DecidableEq, Repr

/-- The name that the message of an event has among its fields. -/
def messageField : String := "message"

/-- Whether an event has a field. -/
def Event.hasField (e : Event) (name : String) : Bool :=
  name == messageField || e.fields.any (·.1 == name)

end ToolPolicy.Log
