import ToolPolicy.DashClaw.Conversion
import ToolPolicy.DashClaw.Export
import ToolPolicy.DashClaw.Request
import ToolPolicy.Policy.Validator
import ToolPolicy.Program.Check
import ToolPolicy.Yaml.Text

/-! Converting the records of an export file or of an instance into a policy file.

Nothing is printed or written unless the whole conversion succeeds and its result is accepted. -/

namespace ToolPolicy.Program

def convertComponent : String := "guardrailgen::cli::commands::convert"

def conversionComponent : String := "guardrailgen::dashclaw::convert"

def requestComponent : String := "guardrailgen::dashclaw::client"

/-- The path by which policies go that are printed. -/
def printedPath : String := "<converted>"

/-- The text of an export file. One that is no text counts as missing. -/
def exportText (w : Workspace) (path : String) : Except LoadFault String :=
  match w.entry? path with
  | some (.file bytes) => (Utf8.decode bytes).mapError fun _ => .missingFile path
  | some .directory | none => .error (.missingFile path)

/-- The records of an export file. -/
def recordsOfFile (w : Workspace) (path : String) : Step (List DashClaw.Record) := do
  let text ← Step.ofResult ((exportText w path).mapError .load)
  Step.act (fileEvent .debug convertComponent path "reading DashClaw export" [])
  Step.ofResult ((DashClaw.parseExport text).mapError .dashClaw)

/-- Asks an instance for its records. -/
def askInstance {α : Type} (r : ConvertRequest) : Step α := do
  let request ← Step.ofResult ((DashClaw.Request.of r.url r.apiKey).mapError .dashClaw)
  Step.act (.log ⟨.debug, requestComponent, "requesting DashClaw policies",
    [("url", .text request.url.text)]⟩)
  Step.fail (.dashClaw request.fault)

/-- The events of the records that are passed over, up to one that cannot be converted. -/
def passedOver : Nat → List DashClaw.Record → List Effect
  | _, [] => []
  | index, r :: rest =>
    if r.isInactive then
      .log ⟨.debug, conversionComponent, "skipping inactive DashClaw policy",
        [("index", .number index)]⟩ :: passedOver (index + 1) rest
    -- The conversion stops at its first fault, and so do its events.
    else if (DashClaw.convertPolicy index r).isOk then passedOver (index + 1) rest
    else []

/-- The document of records. -/
def convertRecords (records : List DashClaw.Record) (project : String) : Step PolicyDocument := do
  -- The events of the records passed over are seen also where the conversion fails.
  Step.actAll (passedOver 0 records)
  let document ← Step.ofResult ((DashClaw.convertPolicies records project).mapError .dashClaw)
  Step.act (.log ⟨.info, conversionComponent, "converted DashClaw policies",
    [("total", .number records.length), ("converted", .number document.policies.length)]⟩)
  return document

/-- The text of a document, if it is accepted. -/
def render (document : PolicyDocument) (out : Option String) : Except Failure String :=
  match validatePolicy document.toNode with
  | .error violation => .error (.policy (out.getD printedPath) violation)
  | .ok () => .ok (Yaml.write document.content)

/-- Brings a text to where it is to go. -/
def deliver (w : Workspace) (document : PolicyDocument) (out : Option String) (text : String) :
    Step Unit :=
  match out with
  | none => Step.act (.print text)
  | some path =>
    -- Whether the file can be written is found out only now that there is something to write.
    match w.writeFault? path with
    | some fault => Step.fail (.io fault.message)
    | none =>
      Step.actAll [.write path text,
        fileEvent .info convertComponent path "wrote guardrails policy file"
          [("policies", .number document.policies.length)]]

/-- Converts records. -/
def convert (w : Workspace) (r : ConvertRequest) : Step Unit := do
  -- A probe reads no file, even if one is named.
  if r.isProbe then askInstance r
  else
    let records ← match r.input with
      | some path => recordsOfFile w path
      | none => askInstance r
    let document ← convertRecords records r.project
    let text ← Step.ofResult (render document r.out)
    deliver w document r.out text

end ToolPolicy.Program
