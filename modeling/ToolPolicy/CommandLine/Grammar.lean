import ToolPolicy.CommandLine.Command

/-! Which options and operands each command takes. -/

namespace ToolPolicy.CommandLine

/-- What an argument sets. -/
inductive Setting where
  | help
  | version
  | verbosity
  | quiet
  | color
  | logFormat
  | files
  | isExhaustive
  | isStrict
  | runsTests
  | format
  | input
  | url
  | apiKey
  | project
  | out
  | isProbe
  | shell
deriving DecidableEq, Repr

/-- What an argument takes, and how often it can be given. -/
inductive Kind where
  /-- Asks for help at once. -/
  | help
  /-- Asks for the version at once. -/
  | version
  /-- Stands alone, once. -/
  | switch
  /-- Stands alone, any number of times. -/
  | tally
  /-- Takes any text. -/
  | text
  /-- Takes a text that is not empty. -/
  | path
  /-- Takes texts that are not empty, any number of times. -/
  | paths
  /-- Takes one of some words. -/
  | choice (words : List String)
deriving DecidableEq, Repr

namespace Kind

def takesValue : Kind → Bool
  | help | version | switch | tally => false
  | text | path | paths | choice _ => true

def isRepeatable : Kind → Bool
  | tally | paths => true
  | _ => false

def accepts : Kind → String → Bool
  | path, value | paths, value => value != ""
  | choice words, value => words.contains value
  | _, _ => true

end Kind

/-- A setting with what it takes. -/
structure Parameter where
  setting : Setting
  kind : Kind
deriving DecidableEq, Repr

/-- A parameter that is given by name, or else by a variable of the environment. -/
structure NamedParameter extends Parameter where
  long : String
  short : Option Char
  /-- The variable that stands in for the option. -/
  standIn : Option String
deriving DecidableEq, Repr

/-- A parameter that no variable stands in for. -/
def NamedParameter.plain (setting : Setting) (kind : Kind) (long : String) (short : Option Char) :
    NamedParameter := ⟨⟨setting, kind⟩, long, short, none⟩

/-- What can stand on the command line of a command. -/
structure Grammar where
  options : List NamedParameter
  operand : Option Parameter
  /-- The commands, where one can follow. -/
  commands : List String
deriving DecidableEq, Repr

namespace Grammar

def named? (g : Grammar) (long : String) : Option NamedParameter :=
  g.options.find? (·.long == long)

def abbreviated? (g : Grammar) (short : Char) : Option NamedParameter :=
  g.options.find? (·.short == some short)

end Grammar

def outputFormatKind : Kind := .choice (OutputFormat.all.map OutputFormat.word)

def colorKind : Kind := .choice (ColorChoice.all.map ColorChoice.word)

def shellKind : Kind := .choice (Shell.all.map Shell.word)

/-- The variables that stand in for options. -/
def colorVariable : String := "GUARDRAILGEN_COLOR"

def urlVariable : String := "GUARDRAILGEN_DASHCLAW_URL"

def apiKeyVariable : String := "GUARDRAILGEN_DASHCLAW_API_KEY"

/-- The options that can stand before a command as well as after it. -/
def sharedOptions : List NamedParameter := [
  .plain .verbosity .tally "verbose" (some 'v'),
  .plain .quiet .switch "quiet" (some 'q'),
  ⟨⟨.color, colorKind⟩, "color", none, some colorVariable⟩,
  .plain .logFormat outputFormatKind "log-format" none,
  .plain .help .help "help" (some 'h'),
  .plain .version .version "version" (some 'V')]

/-- The word that asks for help on the words after it. -/
def helpWord : String := "help"

/-- The names of the commands. -/
inductive CommandName where
  | validate
  | convert
  | completions
  | version
deriving DecidableEq, Repr

namespace CommandName

def all : List CommandName := [validate, convert, completions, version]

def word : CommandName → String
  | validate => "validate"
  | convert => "convert"
  | completions => "completions"
  | version => "version"

def ofWord? (word : String) : Option CommandName := all.find? (·.word == word)

def ownOptions : CommandName → List NamedParameter
  | validate => [
    .plain .isExhaustive .switch "all" none,
    .plain .isStrict .switch "strict" none,
    .plain .runsTests .switch "run-tests" none,
    .plain .format outputFormatKind "format" (some 'f')]
  | convert => [
    .plain .input .path "input" (some 'i'),
    ⟨⟨.url, .text⟩, "url", none, some urlVariable⟩,
    ⟨⟨.apiKey, .text⟩, "api-key", none, some apiKeyVariable⟩,
    .plain .project .text "project" none,
    .plain .out .path "out" (some 'o'),
    .plain .isProbe .switch "check" none]
  | completions => []
  | version => [.plain .format outputFormatKind "format" (some 'f')]

def operand : CommandName → Option Parameter
  | validate => some ⟨.files, .paths⟩
  | completions => some ⟨.shell, shellKind⟩
  | convert | version => none

/-- What can follow the name of a command. -/
def grammar (name : CommandName) : Grammar := ⟨name.ownOptions ++ sharedOptions, name.operand, []⟩

end CommandName

/-- What can stand before a command. -/
def rootGrammar : Grammar :=
  ⟨sharedOptions, none, CommandName.all.map CommandName.word ++ [helpWord]⟩

end ToolPolicy.CommandLine
