import ToolPolicy.Text.Digits

/-! Why a policy file was not taken in. -/

namespace ToolPolicy

/-- What keeps files from being used. -/
inductive LoadFault where
  /-- The text of a file is not YAML; the line is given where it is known. -/
  | malformed (path : String) (line : Option Nat) (message : String)
  /-- There is no such file, or it is not readable. -/
  | missingFile (path : String)
  /-- A setting is not met. -/
  | invalidValue (field value expected : String)
  /-- A number of files were not accepted. -/
  | rejectedFiles (count : Nat)
deriving DecidableEq, Repr

namespace LoadFault

def message : LoadFault → String
  | malformed path line message =>
    "parse error in " ++ path ++
      (match line with
        | some n => " (line " ++ Digits.nat n ++ ")"
        | none => "") ++
      ": " ++ message
  | missingFile path => "file not found: " ++ path
  | invalidValue field value expected =>
    "invalid value for '" ++ field ++ "': got '" ++ value ++ "', expected " ++ expected
  | rejectedFiles count => Digits.nat count ++ " file(s) failed validation"

/-- A file that has more bytes than the limit. -/
def oversize (size limit : Nat) : LoadFault :=
  invalidValue "file_size" (Digits.nat size ++ " bytes")
    ("at most " ++ Digits.nat limit ++ " bytes")

end LoadFault

end ToolPolicy
