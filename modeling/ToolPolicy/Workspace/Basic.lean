import ToolPolicy.Loader.Basic

/-! The files that a run can see. -/

namespace ToolPolicy

/-- Why nothing can be written to a path. -/
inductive WriteFault where
  | noSuchFile
  | notDirectory
  | isDirectory
  | other (message : String)
deriving DecidableEq, Repr

/-- The message of the operating system. -/
def WriteFault.message : WriteFault → String
  | noSuchFile => "No such file or directory (os error 2)"
  | notDirectory => "Not a directory (os error 20)"
  | isDirectory => "Is a directory (os error 21)"
  | other message => message

/-- What a run finds at the paths that it looks at. -/
structure Workspace where
  entry? : String → Option Loader.FileEntry
  writeFault? : String → Option WriteFault

end ToolPolicy
