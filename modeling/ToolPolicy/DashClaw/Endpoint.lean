import ToolPolicy.DashClaw.Fault
import ToolPolicy.Url.Basic

/-! Where a DashClaw instance lists its policies. -/

namespace ToolPolicy.DashClaw

/-- The path of the list, below the address of an instance. -/
def policiesPath : String := "api/policies"

/-- A text with one slash at its end. -/
def withSlash (text : String) : String :=
  String.ofList ((text.toList.reverse.dropWhile (· == '/')).reverse ++ ['/'])

/-- The address of an instance; it must be on the web. -/
def baseUrl (text : String) : Except DashClawFault Url :=
  match Url.parse (withSlash text) with
  | .ok (.web u) => .ok u
  | .ok (.other scheme) => .error (.invalidUrl text ("unsupported scheme '" ++ scheme ++ "'"))
  | .error fault => .error (.invalidUrl text fault.message)

/-- Where the policies of an instance are. -/
def policiesUrl (base : Url) : Url := base.join policiesPath

end ToolPolicy.DashClaw
