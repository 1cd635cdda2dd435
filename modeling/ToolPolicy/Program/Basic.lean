import ToolPolicy.CommandLine.Basic
import ToolPolicy.Log.Line
import ToolPolicy.Program.About
import ToolPolicy.Program.Convert

/-! Whole runs: a command, its effects, and what is seen of them. -/

namespace ToolPolicy.Program

/-- Runs a command. -/
def run (s : Setup) : Command → Step Unit
  | .validate request => check s request
  | .convert request => convert s.workspace request
  | .completions shell => Step.act (.print (completionScript shell))
  | .version format => Step.act (.print (versionText format))

/-- Which events are written, and how. -/
structure Logging where
  filter : Log.Filter
  layout : Log.Layout
deriving DecidableEq, Repr

/-- The variable that sets the filter. -/
def filterVariable : String := "GUARDRAILGEN_LOG_LEVEL"

/-- The variable that takes the colors from what goes to a terminal. -/
def plainVariable : String := "NO_COLOR"

/-- The filter that a text sets, or else the verbosity. -/
def filterOf (text : Option String) (verbosity : Nat) : Log.Filter :=
  let byVerbosity := Log.Filter.ofLevel (.ofVerbosity verbosity)
  match text.map fun text => Blank.trim text.toList with
  | none | some [] => byVerbosity
  -- A text that cannot be read as a filter is as good as none.
  | some text => (Log.Filter.ofText? text).getD byVerbosity

/-- Whether log lines have colors. -/
def hasColor (choice : ColorChoice) (isTerminal isPlain : Bool) : Bool :=
  match choice with
  | .auto => isTerminal && !isPlain
  | .always => true
  | .never => false

/-- How an invocation logs, unless it is quiet. -/
def loggingOf (i : Invocation) (env : CommandLine.Environment) (isTerminal : Bool) :
    Option Logging :=
  if i.isQuiet then none
  else
    some {
      filter := filterOf (env.value? filterVariable) i.verbosity
      layout := {
        format := i.logFormat
        -- The choice of a filter does not show the components; only more talk does.
        showsComponent := 2 ≤ i.verbosity
        hasColor := hasColor i.color isTerminal (env.value? plainVariable).isSome } }

/-- The line of an event, if it is written. -/
def Logging.line? (l : Logging) (time : String) (e : Log.Event) : Option String :=
  if l.filter.admits e then some (l.layout.line time e) else none

/-- What is seen of a run. -/
structure Outcome where
  status : ExitStatus
  output : String
  errorOutput : String
  written : List (String × String)
deriving DecidableEq, Repr

/-- The text of an effect on the standard output. -/
def Effect.output : Effect → String
  | print text => text
  | _ => ""

/-- The text of an effect on the standard error output. -/
def Effect.errorOutput (logging : Option Logging) (time : String) : Effect → String
  | report line => line ++ "\n"
  | log event =>
    match logging.bind (·.line? time event) with
    | some line => line ++ "\n"
    | none => ""
  | _ => ""

/-- The file that an effect writes. -/
def Effect.written? : Effect → Option (String × String)
  | write path text => some (path, text)
  | _ => none

/-- The line of a failure on the standard error output. -/
def failureText : Except Failure Unit → String
  | .ok () => ""
  | .error failure => "error: " ++ failure.message ++ "\n"

def statusOf : Except Failure Unit → ExitStatus
  | .ok () => .success
  | .error failure => failure.exitStatus

/-- What is seen of a step, with its events logged at a time. -/
def Step.outcome (logging : Option Logging) (time : String) (s : Step Unit) : Outcome where
  status := statusOf s.result
  output := String.join (s.effects.map Effect.output)
  errorOutput :=
    -- The failure is the last line, after all that was reported or logged.
    String.join (s.effects.map (Effect.errorOutput logging time)) ++ failureText s.result
  written := s.effects.filterMap Effect.written?

/-- The setup of a run. -/
def setupOf (env : CommandLine.Environment) (w : Workspace) : Setup :=
  ⟨Loader.limitOf (env.value? Loader.limitVariable), w⟩

/-- What is seen of an invocation. -/
def outcomeOf (env : CommandLine.Environment) (isTerminal : Bool) (time : String) (w : Workspace)
    (i : Invocation) : Outcome :=
  (run (setupOf env w) i.command).outcome (loggingOf i env isTerminal) time

/-- What is seen of an invocation that logs nothing. -/
def quietOutcomeOf (env : CommandLine.Environment) (w : Workspace) (i : Invocation) : Outcome :=
  outcomeOf env false "" w { i with isQuiet := true }

end ToolPolicy.Program
