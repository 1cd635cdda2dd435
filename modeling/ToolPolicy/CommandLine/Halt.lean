import ToolPolicy.Failure

/-! Why a command line runs no command. -/

namespace ToolPolicy.CommandLine

/-- What stops the reading of a command line. -/
inductive Halt where
  /-- Help is asked for. -/
  | help
  /-- The version is asked for. -/
  | version
  /-- Neither a command nor anything else is given. -/
  | nothingGiven
  /-- No command is given. -/
  | noCommand
  | unknownCommand
  | unknownArgument
  /-- Something that a command needs is not given. -/
  | missingArgument
  /-- An option has no value, or one that it does not take. -/
  | invalidValue
  /-- An option that takes no value has one. -/
  | unexpectedValue
  /-- Two things are given of which only one can be. -/
  | conflict
deriving DecidableEq, Repr

namespace Halt

/-- Only what was asked for ends a run well. -/
def exitStatus : Halt → ExitStatus
  | help | version => .success
  | _ => .unusableInput

def message : Halt → String
  | help => "help is asked for"
  | version => "the version is asked for"
  | nothingGiven | noCommand => "a command is required"
  | unknownCommand => "there is no such command"
  | unknownArgument => "there is no such argument"
  | missingArgument => "a required argument is missing"
  | invalidValue => "an argument has no value that it takes"
  | unexpectedValue => "an argument has a value but takes none"
  | conflict => "two arguments exclude each other"

end Halt

end ToolPolicy.CommandLine
