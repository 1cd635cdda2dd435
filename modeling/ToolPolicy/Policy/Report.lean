import ToolPolicy.Policy.Violation

/-! What a validation run finds. -/

namespace ToolPolicy

/-- How much a finding weighs. -/
inductive Severity where
  | error
  | warning
deriving DecidableEq, Repr

/-- A finding at a place in a document. -/
structure Issue where
  path : String
  message : String
  severity : Severity
  violation : Option Violation
deriving DecidableEq, Repr

namespace Issue

/-- The finding of a violation. -/
def ofViolation (path : String) (v : Violation) : Issue := ⟨path, v.message, .error, some v⟩

/-- A finding that does not keep the document from being accepted. -/
def warning (path message : String) : Issue := ⟨path, message, .warning, none⟩

/-- The finding as a line of a report; the root has no path. -/
def text (i : Issue) : String :=
  (match i.severity with
    | .error => "error: "
    | .warning => "warning: ") ++
    i.message ++ (if i.path = "" then "" else " at " ++ i.path)

end Issue

/-- The findings of a run in the order of the document. -/
structure Report where
  errors : List Issue
  warnings : List Issue
deriving DecidableEq, Repr

namespace Report

/-- No findings. -/
def empty : Report := ⟨[], []⟩

/-- Whether the document is accepted. -/
def isValid (r : Report) : Bool := r.errors.isEmpty

def hasErrors (r : Report) : Bool := !r.errors.isEmpty

/-- The first violation of the report. -/
def firstViolation? (r : Report) : Option Violation := r.errors.findSome? (·.violation)

/-- The report as a verdict. -/
def result (r : Report) : Except Violation Unit :=
  match r.firstViolation? with
  | some v => .error v
  | none => .ok ()

end Report

end ToolPolicy
