/-! What can be asked of the program. -/

namespace ToolPolicy

/-- How results and log lines are written. -/
inductive OutputFormat where
  | human
  | json
deriving DecidableEq, Repr

namespace OutputFormat

def all : List OutputFormat := [human, json]

def word : OutputFormat → String
  | human => "human"
  | json => "json"

def ofWord? (word : String) : Option OutputFormat := all.find? (·.word == word)

end OutputFormat

/-- Whether log lines have colors. -/
inductive ColorChoice where
  /-- They have colors where they go to a terminal. -/
  | auto
  | always
  | never
deriving DecidableEq, Repr

namespace ColorChoice

def all : List ColorChoice := [auto, always, never]

def word : ColorChoice → String
  | auto => "auto"
  | always => "always"
  | never => "never"

def ofWord? (word : String) : Option ColorChoice := all.find? (·.word == word)

end ColorChoice

/-- A shell that completes command lines. -/
inductive Shell where
  | bash
  | zsh
  | fish
  | powershell
  | elvish
deriving DecidableEq, Repr

namespace Shell

def all : List Shell := [bash, zsh, fish, powershell, elvish]

def word : Shell → String
  | bash => "bash"
  | zsh => "zsh"
  | fish => "fish"
  | powershell => "powershell"
  | elvish => "elvish"

def ofWord? (word : String) : Option Shell := all.find? (·.word == word)

end Shell

/-- Files to check, and how. -/
structure CheckRequest where
  files : List String
  /-- Whether to report every violation and not stop at the first one. -/
  isExhaustive : Bool
  /-- Whether warnings keep a file from being accepted. -/
  isStrict : Bool
  /-- Whether to run the tests of the policies. -/
  runsTests : Bool
  format : OutputFormat
deriving DecidableEq, Repr

/-- Records to convert, and where the policies go. -/
structure ConvertRequest where
  /-- The export file to read. -/
  input : Option String
  /-- The instance to ask, if no file is given. -/
  url : Option String
  apiKey : Option String
  project : String
  /-- The file to write; without one the policies are printed. -/
  out : Option String
  /-- Whether only to see if the instance answers. -/
  isProbe : Bool
deriving DecidableEq, Repr

inductive Command where
  | validate (request : CheckRequest)
  | convert (request : ConvertRequest)
  | completions (shell : Shell)
  | version (format : OutputFormat)
deriving DecidableEq, Repr

/-- A command and how the program talks while it runs. -/
structure Invocation where
  command : Command
  /-- How often more talk is asked for, up to 255 times. -/
  verbosity : Nat
  /-- Whether to log nothing. -/
  isQuiet : Bool
  color : ColorChoice
  logFormat : OutputFormat
deriving DecidableEq, Repr

end ToolPolicy
