import Std.Time.Format
import ToolPolicy.Program.Basic

/-! The program: it reads the files that a command line names, runs, and shows what comes of it. -/

namespace ToolPolicy.Program

/-- The variables that a run looks at. -/
def variableNames : List String :=
  [CommandLine.colorVariable, CommandLine.urlVariable, CommandLine.apiKeyVariable,
    Loader.limitVariable, filterVariable, plainVariable]

def readEnvironment : IO CommandLine.Environment :=
  variableNames.filterMapM fun name => do
    return (← IO.getEnv name).map (name, ·)

/-- The paths that a command reads. -/
def pathsOf : Command → List String
  | .validate request => request.files
  | .convert request => request.input.toList
  | .completions _ | .version _ => []

/-- The file at a path; what cannot be read counts as missing. -/
def readFile (path : String) : IO (Option (String × Loader.FileEntry)) := do
  try return some (path, .file (← IO.FS.readBinFile path).toList)
  catch _ => return none

/-- The files of a command, as if every path could be written to. -/
def readWorkspace (command : Command) : IO Workspace := do
  let files ← (pathsOf command).filterMapM readFile
  return ⟨fun path => files.lookup path, fun _ => none⟩

/-- The time of day all over the world. -/
def readTime : IO String := do
  let now ← Std.Time.Timestamp.now
  return (Std.Time.DateTime.ofTimestamp now Std.Time.TimeZone.ZoneRules.UTC).format
    "uuuu-MM-dd'T'HH:mm:ss.SSSSSS'Z'"

def writeFaultOf : IO.Error → WriteFault
  | .noFileOrDirectory .. => .noSuchFile
  | .inappropriateType _ 20 _ => .notDirectory
  | .inappropriateType _ 21 _ => .isDirectory
  | e => .other (toString e)

/-- Writes files up to one that cannot be written. -/
def writeFiles : List (String × String) → IO (Option WriteFault)
  | [] => return none
  | (path, text) :: rest => do
    try IO.FS.writeFile path text
    catch e => return some (writeFaultOf e)
    writeFiles rest

/-- Runs an invocation. A file that turns out not to be writable is a fault of the run. -/
def perform (env : CommandLine.Environment) (i : Invocation) : IO Outcome := do
  let w ← readWorkspace i.command
  let time ← readTime
  let isTerminal ← (← IO.getStderr).isTty
  let outcome := outcomeOf env isTerminal time w i
  match ← writeFiles outcome.written with
  | none => return outcome
  | some fault => return outcomeOf env isTerminal time { w with writeFault? := fun _ => fault } i

/-- Shows why no command is run. -/
def showHalt (halt : CommandLine.Halt) : IO Unit :=
  match halt with
  | .help => IO.print helpText
  | .version => IO.print (versionText .human)
  | _ => IO.eprint ("error: " ++ halt.message ++ "\n\n" ++ helpText)

end ToolPolicy.Program

open ToolPolicy ToolPolicy.Program in
def main (words : List String) : IO UInt32 := do
  let env ← readEnvironment
  match CommandLine.parse env words with
  | .error halt =>
    showHalt halt
    return UInt32.ofNat halt.exitStatus.code
  | .ok invocation =>
    let outcome ← perform env invocation
    IO.print outcome.output
    IO.eprint outcome.errorOutput
    return UInt32.ofNat outcome.status.code
