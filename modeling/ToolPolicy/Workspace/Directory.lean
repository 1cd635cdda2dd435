import ToolPolicy.Workspace.Basic

/-! The workspace of a directory, of which only what is below it can be seen. -/

namespace ToolPolicy

/-- The steps from a directory to a place below it. -/
abbrev Place := List String

/-- What stands at the places below a directory. -/
abbrev Directory := List (Place × Loader.FileEntry)

namespace Directory

/-- What stands at a place; the directory stands at its own. -/
def entryAt? (d : Directory) (place : Place) : Option Loader.FileEntry :=
  if place.isEmpty then some .directory else List.lookup place d

/-- The place that steps lead to. Each step but the last has to end in a directory. -/
def walk (d : Directory) : Place → List String → Except WriteFault Place
  | place, [] => .ok place
  | place, step :: rest =>
    match d.entryAt? place with
    | none => .error .noSuchFile
    | some (.file _) => .error .notDirectory
    | some .directory =>
      if step = "." then walk d place rest
      else if step = ".." then
        if place.isEmpty then .error .noSuchFile else walk d place.dropLast rest
      else walk d (place ++ [step]) rest

/-- The place of a path, unless the path begins at the root of all directories. -/
def placeOf (d : Directory) (path : String) : Except WriteFault Place :=
  if path.toList.head? = some '/' then .error .noSuchFile
  else d.walk [] (((path.toList.splitOn '/').filter (!·.isEmpty)).map String.ofList)

/-- Whether a path ends in a slash, as only that of a directory can. -/
def isSlashed (path : String) : Bool := path.toList.getLast? = some '/'

/-- What stands at a path. -/
def entry? (d : Directory) (path : String) : Option Loader.FileEntry :=
  match d.placeOf path with
  | .error _ => none
  | .ok place =>
    match d.entryAt? place with
    | some (.file bytes) => if isSlashed path then none else some (.file bytes)
    | entry => entry

/-- Why no file can be written to a path. -/
def writeFault? (d : Directory) (path : String) : Option WriteFault :=
  match d.placeOf path with
  | .error fault => some fault
  | .ok place =>
    match d.entryAt? place with
    | some .directory => some .isDirectory
    | some (.file _) => if isSlashed path then some .notDirectory else none
    | none => if isSlashed path then some .isDirectory else none

/-- The directory as a run finds it. -/
def workspace (d : Directory) : Workspace := ⟨d.entry?, d.writeFault?⟩

end Directory

end ToolPolicy
