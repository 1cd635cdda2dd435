import ToolPolicy.CommandLine.Grammar
import ToolPolicy.Json.Text

/-! What the program says of itself. -/

namespace ToolPolicy.Program

def name : String := "guardrailgen"

def version : String := "0.1.0"

/-- The version in a line. -/
def versionText : OutputFormat → String
  | .human => name ++ " " ++ version ++ "\n"
  | .json =>
    Json.compact (.mapping [("name", .string name), ("version", .string version)]) ++ "\n"

/-- The words of the commands. -/
def commandWords : List String := CommandLine.rootGrammar.commands

/-- The script by which a shell completes the names of the commands. -/
def completionScript (shell : Shell) : String :=
  let words := String.intercalate " " commandWords
  match shell with
  | .bash => "complete -W '" ++ words ++ "' " ++ name ++ "\n"
  | .zsh => "#compdef " ++ name ++ "\n_arguments '1:command:(" ++ words ++ ")' '*:file:_files'\n"
  | .fish => "complete -c " ++ name ++ " -n __fish_use_subcommand -a '" ++ words ++ "'\n"
  | .powershell =>
    "Register-ArgumentCompleter -Native -CommandName " ++ name ++ " -ScriptBlock \x7b\n" ++
      "  param($word)\n  '" ++ words ++ "' -split ' ' -like \"$word*\"\n\x7d\n"
  | .elvish =>
    "set edit:completion:arg-completer[" ++ name ++ "] = \x7b|@words| put " ++ words ++ " \x7d\n"

/-- The help text. -/
def helpText : String :=
  "Usage: " ++ name ++ " [OPTIONS] <COMMAND>\n\nCommands:\n" ++
    String.join (commandWords.map fun word => "  " ++ word ++ "\n") ++ "\nOptions:\n" ++
    String.join (CommandLine.sharedOptions.map fun p => "  --" ++ p.long ++ "\n")

end ToolPolicy.Program
