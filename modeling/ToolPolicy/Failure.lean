import ToolPolicy.DashClaw.Fault
import ToolPolicy.Loader.Fault
import ToolPolicy.Policy.Violation

/-! Why a run of the program fails, and the code it ends with. -/

namespace ToolPolicy

inductive Failure where
  | load (fault : LoadFault)
  | policy (path : String) (violation : Violation)
  | testsFailed (path : String) (failed total : Nat)
  | dashClaw (fault : DashClawFault)
  | io (message : String)
  | json (message : String)
  | yaml (message : String)
deriving DecidableEq, Repr

namespace Failure

def message : Failure → String
  | load fault => fault.message
  | policy path violation => path ++ ": " ++ violation.message
  | testsFailed path failed total =>
    path ++ ": " ++ Digits.nat failed ++ " of " ++ Digits.nat total ++ " policy test(s) failed"
  | dashClaw fault => fault.message
  | io message => "I/O error: " ++ message
  | json message => "JSON error: " ++ message
  | yaml message => "YAML error: " ++ message

end Failure

/-- How a run ends. -/
inductive ExitStatus where
  | success
  /-- A document or its tests were not accepted. -/
  | invalidPolicy
  /-- Something that was given cannot be used. -/
  | unusableInput
  /-- Something could not be written. -/
  | outputFailed
  /-- An instance could not be reached or did not answer well. -/
  | networkFailed
deriving DecidableEq, Repr

def ExitStatus.code : ExitStatus → Nat
  | success => 0
  | invalidPolicy => 1
  | unusableInput => 2
  | outputFailed => 3
  | networkFailed => 4

/-- How a run ends that a DashClaw fault stops. -/
def DashClawFault.exitStatus (fault : DashClawFault) : ExitStatus :=
  if fault.isRemote then .networkFailed else .unusableInput

/-- How a run ends that fails. -/
def Failure.exitStatus : Failure → ExitStatus
  | policy _ _ | testsFailed _ _ _ | load (.rejectedFiles _) => .invalidPolicy
  | load _ | json _ | yaml _ => .unusableInput
  | io _ => .outputFailed
  | dashClaw fault => fault.exitStatus

end ToolPolicy
