import ToolPolicy.Text.Digits

/-! What can go wrong with a DashClaw instance and its records. -/

namespace ToolPolicy

inductive DashClawFault where
  /-- A request did not come through. -/
  | request (message : String)
  | invalidUrl (url message : String)
  | missingApiKey
  /-- A request was answered with a status that is no success. -/
  | refused (status : Nat) (body : String)
  | invalidResponse (message : String)
  | invalidExport (message : String)
  /-- The record at an index has no policy. -/
  | invalidPolicy (index : Nat) (message : String)
deriving DecidableEq, Repr

namespace DashClawFault

def message : DashClawFault → String
  | request message => "DashClaw request failed: " ++ message
  | invalidUrl url message => "invalid DashClaw URL '" ++ url ++ "': " ++ message
  | missingApiKey =>
    "a DashClaw API key is required with --url (--api-key or GUARDRAILGEN_DASHCLAW_API_KEY)"
  | refused status body => "DashClaw API error (" ++ Digits.nat status ++ "): " ++ body
  | invalidResponse message => "invalid response from DashClaw API: " ++ message
  | invalidExport message => "invalid DashClaw export: " ++ message
  | invalidPolicy index message => "DashClaw policy #" ++ Digits.nat index ++ ": " ++ message

/-- Whether the fault lies with the network and not with what was given. -/
def isRemote : DashClawFault → Bool
  | request _ | refused _ _ | invalidResponse _ => true
  | _ => false

end DashClawFault

end ToolPolicy
