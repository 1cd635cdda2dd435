import ToolPolicy.CommandLine.Reading
import ToolPolicy.DashClaw.Conversion

/-! From the words of a command line to what is asked of the program. -/

namespace ToolPolicy.CommandLine

/-- Whether one source goes before another. -/
def Source.outranks : Source → Source → Bool
  | .commandLine, .environment => true
  | _, _ => false

/-- The settings of a command line by name. -/
structure Settings where
  /-- What stands before the command. -/
  outer : Reading
  /-- What stands after it. -/
  inner : Reading

namespace Settings

/-- What is given for a setting. What follows a command goes before what precedes it, unless the
source of that is the stronger one. -/
def given? (s : Settings) (setting : Setting) : Option Given :=
  match s.outer.given? setting, s.inner.given? setting with
  | some outer, some inner => some (if outer.source.outranks inner.source then outer else inner)
  | some outer, none => some outer
  | none, inner => inner

def count (s : Settings) (setting : Setting) : Nat :=
  match s.given? setting with
  | some given => given.count
  | none => 0

def isOn (s : Settings) (setting : Setting) : Bool := (s.given? setting).isSome

def values (s : Settings) (setting : Setting) : List String :=
  match s.given? setting with
  | some given => given.values
  | none => []

def value? (s : Settings) (setting : Setting) : Option String := (s.values setting).head?

/-- The format that a setting names. -/
def format (s : Settings) (setting : Setting) : OutputFormat :=
  ((s.value? setting).bind OutputFormat.ofWord?).getD .human

def color (s : Settings) : ColorChoice :=
  ((s.value? .color).bind ColorChoice.ofWord?).getD .auto

end Settings

/-- Whether a command has what it needs. A conversion has exactly one source. -/
def checkInner (name : CommandName) (r : Reading) : Except Halt Unit :=
  match name with
  | .validate => if r.isGiven .files then .ok () else .error .missingArgument
  | .completions => if r.isGiven .shell then .ok () else .error .missingArgument
  | .version => .ok ()
  | .convert =>
    match r.isGiven .input, r.isGiven .url with
    | true, true => .error .conflict
    | false, false => .error .missingArgument
    | _, _ => .ok ()

/-- The command that settings ask for. -/
def commandOf (name : CommandName) (s : Settings) : Command :=
  match name with
  | .validate => .validate {
      files := s.values .files
      isExhaustive := s.isOn .isExhaustive
      isStrict := s.isOn .isStrict
      runsTests := s.isOn .runsTests
      format := s.format .format }
  | .convert => .convert {
      input := s.value? .input
      url := s.value? .url
      apiKey := s.value? .apiKey
      project := (s.value? .project).getD DashClaw.defaultProject
      out := s.value? .out
      isProbe := s.isOn .isProbe }
  | .completions => .completions (((s.value? .shell).bind Shell.ofWord?).getD .bash)
  | .version => .version (s.format .format)

/-- The greatest verbosity that is told apart. -/
def maxVerbosity : Nat := 255

def invocationOf (name : CommandName) (s : Settings) : Invocation where
  command := commandOf name s
  verbosity := min (s.count .verbosity) maxVerbosity
  isQuiet := s.isOn .quiet
  color := s.color
  logFormat := s.format .logFormat

/-- Reads what follows the name of a command. -/
def parseInner (env : Environment) (name : CommandName) (words : List String) :
    Except Halt Reading := do
  let (r, _) ← readWords name.grammar words .empty
  let r ← r.finish name.grammar env
  checkInner name r
  return r

/-- What comes of asking for help on words: commands have no commands of their own. -/
def helpOn (words : List String) : Halt :=
  match words with
  | [] => .help
  | [word] => if rootGrammar.commands.contains word then .help else .unknownCommand
  | _ => .unknownCommand

/-- Reads a command line. A command is read to its end before what precedes it is judged. -/
def parse (env : Environment) (words : List String) : Except Halt Invocation := do
  let (outer, follow) ← readWords rootGrammar words .empty
  match follow with
  | none =>
    let outer ← outer.finish rootGrammar env
    throw (if outer.given.isEmpty then .nothingGiven else .noCommand)
  | some (word, rest) =>
    match CommandName.ofWord? word with
    | none => throw (helpOn rest)
    | some name =>
      let inner ← parseInner env name rest
      let outer ← outer.finish rootGrammar env
      return invocationOf name ⟨outer, inner⟩

end ToolPolicy.CommandLine
