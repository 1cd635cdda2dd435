import ToolPolicy.CommandLine.Command
import ToolPolicy.Json.Text
import ToolPolicy.Policy.TestCase
import ToolPolicy.Program.Step
import ToolPolicy.Workspace.Basic

/-! Checking policy files.

For people a run stops at the first file that is not accepted, unless it is to report all of them.
For programs it always reports all of them, in one JSON object. -/

namespace ToolPolicy.Program

/-- What the commands work with. -/
structure Setup where
  /-- The greatest number of bytes of a policy file. -/
  limit : Nat
  workspace : Workspace

/-- What is found out about a file. -/
structure Findings where
  report : Report
  /-- How its tests went, where they were to run. -/
  outcomes : Option (List TestOutcome)
deriving DecidableEq, Repr

/-- The outcomes of the tests of a document. One that is not accepted has none. -/
def outcomesOf (doc : Node) (report : Report) : List TestOutcome :=
  if report.isValid then
    match PolicyDocument.ofNode doc with
    | .ok document => runTests document.policies
    -- An accepted document always has its policies.
    | .error _ => []
  else []

namespace Findings

def ofNode (mode : Mode) (runsTests : Bool) (doc : Node) : Findings :=
  let report := validate mode doc
  ⟨report, if runsTests then some (outcomesOf doc report) else none⟩

/-- The outcomes of the tests that ran. -/
def ran (f : Findings) : List TestOutcome := f.outcomes.getD []

/-- The outcomes of the tests that did not pass. -/
def failures (f : Findings) : List TestOutcome := f.ran.filter (!·.isPassed)

/-- Whether warnings keep the file from being accepted. -/
def isHeldUp (f : Findings) (isStrict : Bool) : Bool := isStrict && !f.report.warnings.isEmpty

/-- Whether the file is accepted. -/
def isAccepted (f : Findings) (isStrict : Bool) : Bool :=
  f.report.isValid && !f.isHeldUp isStrict && f.failures.isEmpty

/-- What is wrong with a file that is not accepted. -/
def verdict (f : Findings) (isStrict : Bool) (path : String) : Except Failure Unit :=
  match f.report.firstViolation? with
  | some violation => .error (.policy path violation)
  | none =>
    -- Warnings come before tests: where both would count, only the warnings are named.
    if f.isHeldUp isStrict then .error (.load (.rejectedFiles 1))
    else if !f.failures.isEmpty then
      .error (.testsFailed path f.failures.length f.ran.length)
    else .ok ()

end Findings

/-- Whether a number of files is without those that are not accepted. -/
def verdictOnCount (rejected : Nat) : Except Failure Unit :=
  if rejected = 0 then .ok () else .error (.load (.rejectedFiles rejected))

/-! ### For people -/

def checkComponent : String := "guardrailgen::cli::commands::validate"

def loaderComponent : String := "guardrailgen::config::loader"

/-- A line about a file. -/
def fileLine (path text : String) : Effect := .report (path ++ ": " ++ text)

/-- An event about a file. -/
def fileEvent (level : Log.Level) (component path message : String)
    (fields : List (String × Log.FieldValue)) : Effect :=
  .log ⟨level, component, message, ("file", .text path) :: fields⟩

/-- Loads a file. The event is logged once its text is there. -/
def loadFile (s : Setup) (path : String) : List Effect × Except LoadFault Node :=
  match Loader.readText s.limit path (s.workspace.entry? path) with
  | .error fault => ([], .error fault)
  | .ok text =>
    -- A file whose text cannot be had has not been looked into, and nothing is logged.
    ([fileEvent .debug loaderComponent path "parsing policy file"
        [("bytes", .number text.utf8ByteSize)]],
      Loader.parse text path)

/-- The warnings about a file. They are reported where they count and logged elsewhere. -/
def warningEffects (isStrict : Bool) (path : String) (warnings : List Issue) : List Effect :=
  warnings.map fun warning =>
    if isStrict then fileLine path warning.text
    else fileEvent .warn checkComponent path warning.message [("path", .text warning.path)]

/-- The line of a test that did not pass. -/
def failureLine (path : String) (o : TestOutcome) : Effect :=
  fileLine path ("test " ++ o.policyId ++ "/" ++ o.name ++ " failed: " ++ o.message.getD "")

/-- The tests that ran, and their number where the document let them run. -/
def testEffects (path : String) (f : Findings) : List Effect :=
  f.failures.map (failureLine path) ++
    if f.outcomes.isSome && f.report.isValid then
      [fileEvent .info checkComponent path "ran policy tests"
        [("total", .number f.ran.length), ("failed", .number f.failures.length)]]
    else []

/-- Checks a file as far as every run for people does. -/
def checkFile (s : Setup) (r : CheckRequest) (path : String) :
    List Effect × Except LoadFault Findings :=
  let mode : Mode := if r.isExhaustive then .collectAll else .failFast
  let start := fileEvent .info checkComponent path "validating policy file" []
  let (effects, loaded) := loadFile s path
  match loaded with
  | .error fault => (start :: effects, .error fault)
  | .ok doc =>
    let f := Findings.ofNode mode r.runsTests doc
    (start :: effects ++ warningEffects r.isStrict path f.report.warnings ++ testEffects path f,
      .ok f)

/-- Checks files up to the first one that is not accepted. -/
def checkInTurn (s : Setup) (r : CheckRequest) : List String → Step Unit
  | [] => pure ()
  | path :: rest => do
    let (effects, checked) := checkFile s r path
    -- What was found is seen before the fault stops the run.
    Step.actAll effects
    match checked with
    | .error fault => Step.fail (.load fault)
    | .ok f => Step.ofResult (f.verdict r.isStrict path)
    checkInTurn s r rest

/-- Checks a file and reports all that is wrong with it; returned is whether it is accepted. -/
def surveyFile (s : Setup) (r : CheckRequest) (path : String) : List Effect × Bool :=
  let (effects, checked) := checkFile s r path
  match checked with
  -- A file that cannot be loaded is one of those not accepted, and the run goes on.
  | .error fault => (effects ++ [fileLine path fault.message], false)
  | .ok f =>
    (effects ++ f.report.errors.map (fun issue => fileLine path issue.text),
      f.isAccepted r.isStrict)

/-- Checks all files. -/
def checkEach (s : Setup) (r : CheckRequest) : Step Unit := do
  let surveys := r.files.map (surveyFile s r)
  Step.actAll (surveys.flatMap (·.1))
  Step.ofResult (verdictOnCount (surveys.countP (!·.2)))

def checkForPeople (s : Setup) (r : CheckRequest) : Step Unit := do
  if r.isExhaustive then checkEach s r else checkInTurn s r r.files
  Step.act (.print "OK validate\n")

/-! ### For programs -/

/-- A finding as an entry of the result. -/
structure IssueEntry where
  path : String
  kind : String
  message : String
  policyId : Option String
deriving DecidableEq, Repr

namespace IssueEntry

def ofIssue (i : Issue) : IssueEntry where
  path := i.path
  kind := match i.violation with
    | some violation => violation.kind
    | none => "warning"
  message := i.message
  policyId := i.violation.bind Violation.policyId?

/-- The name of the kind of a fault. -/
def faultKind : LoadFault → String
  | .malformed .. => "parse_error"
  | .missingFile _ => "missing_file"
  | .invalidValue .. | .rejectedFiles _ => "invalid_value"

def ofFault (fault : LoadFault) : IssueEntry := ⟨"", faultKind fault, fault.message, none⟩

def content (e : IssueEntry) : Content :=
  .mapping [("path", .string e.path), ("kind", .string e.kind), ("message", .string e.message),
    ("policy_id", .optional e.policyId)]

end IssueEntry

/-- A file as an entry of the result. -/
structure FileResult where
  path : String
  isAccepted : Bool
  errors : List IssueEntry
  warnings : List IssueEntry
  tests : Option (List TestOutcome)
deriving DecidableEq, Repr

namespace FileResult

def ofFault (path : String) (fault : LoadFault) : FileResult :=
  ⟨path, false, [.ofFault fault], [], none⟩

def ofFindings (path : String) (isStrict : Bool) (f : Findings) : FileResult where
  path := path
  isAccepted := f.isAccepted isStrict
  errors := f.report.errors.map .ofIssue
  warnings := f.report.warnings.map .ofIssue
  tests := f.outcomes

def testContent (o : TestOutcome) : Content :=
  .mapping [("policy_id", .string o.policyId), ("name", .string o.name),
    ("passed", .bool o.isPassed), ("message", .optional o.message)]

/-- The entry; tests that were not to run have no field. -/
def content (r : FileResult) : Content :=
  .mapping ([("path", .string r.path), ("valid", .bool r.isAccepted),
      ("errors", .sequence (r.errors.map (·.content))),
      ("warnings", .sequence (r.warnings.map (·.content)))] ++
    match r.tests with
    | some tests => [("tests", .sequence (tests.map testContent))]
    | none => [])

end FileResult

/-- Files that are checked, and how many there are of each kind. -/
def resultContent (files : List FileResult) : Content :=
  let accepted := files.countP (·.isAccepted)
  .mapping [("files", .sequence (files.map (·.content))),
    ("summary", .mapping [("total", .int files.length), ("valid", .int accepted),
      ("invalid", .int (files.countP (!·.isAccepted)))])]

/-- Checks a file and reports all that is wrong with it. -/
def resultOf (s : Setup) (r : CheckRequest) (path : String) : List Effect × FileResult :=
  let (effects, loaded) := loadFile s path
  match loaded with
  | .error fault => (effects, .ofFault path fault)
  | .ok doc =>
    (effects, .ofFindings path r.isStrict (Findings.ofNode .collectAll r.runsTests doc))

def checkForPrograms (s : Setup) (r : CheckRequest) : Step Unit := do
  let results := r.files.map (resultOf s r)
  let files := results.map (·.2)
  Step.actAll (results.flatMap (·.1))
  -- The object is printed whatever the verdict is.
  Step.act (.print (Json.pretty 0 (resultContent files) ++ "\n"))
  Step.ofResult (verdictOnCount (files.countP (!·.isAccepted)))

/-- Checks files. -/
def check (s : Setup) (r : CheckRequest) : Step Unit :=
  match r.format with
  | .human => checkForPeople s r
  | .json => checkForPrograms s r

end ToolPolicy.Program
