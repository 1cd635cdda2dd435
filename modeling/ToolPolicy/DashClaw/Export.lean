import ToolPolicy.DashClaw.Fault
import ToolPolicy.DashClaw.Record

/-! Exports of DashClaw policies: a list of records, or an object that holds one. -/

namespace ToolPolicy.DashClaw

/-- Why a text is no export. -/
inductive ExportFault where
  | notJson (e : Json.Error)
  | noPolicies
  | notCollection (found : Json.Value)
  | notRecords (fault : RecordFault)

def ExportFault.message : ExportFault → String
  | notJson e => e.message
  | noPolicies => "missing policies array"
  | notCollection found =>
    "expected an array or an object, got " ++ Json.compact found.toContent
  | notRecords fault => fault.message

/-- The list of records in a value. -/
def recordValues : Json.Value → Except ExportFault (List Json.Value)
  | .array items => .ok items
  | .object entries =>
    match entries.lookup "policies" with
    | some (.array items) => .ok items
    -- Policies that are no list are as good as none.
    | _ => .error .noPolicies
  | found => .error (.notCollection found)

/-- Reads an export. -/
def readExport (text : String) : Except ExportFault (List Record) := do
  let value ← (Json.parse text).mapError .notJson
  let values ← recordValues value
  -- One value that is no record spoils the whole export.
  (values.mapM Record.ofValue).mapError .notRecords

/-- Reads an export, or says that it is none. -/
def parseExport (text : String) : Except DashClawFault (List Record) :=
  (readExport text).mapError fun fault => .invalidExport fault.message

end ToolPolicy.DashClaw
