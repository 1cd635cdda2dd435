import ToolPolicy.DashClaw.Endpoint

/-! Asking a DashClaw instance for its policies.

No connection is ever opened, so that every request fails: one that cannot be sent for what it
holds, and any other because the instance is not reached. -/

namespace ToolPolicy.DashClaw

/-- A request for the policies of an instance. -/
structure Request where
  url : Url
  apiKey : String
deriving DecidableEq, Repr

/-- The request that an address and a key make, of which both are required. -/
def Request.of (url apiKey : Option String) : Except DashClawFault Request :=
  match url, apiKey.filter (· != "") with
  | none, _ => .error (.invalidUrl "" "--url is required to reach a DashClaw instance")
  | some _, none => .error .missingApiKey
  | some url, some apiKey => do return ⟨policiesUrl (← baseUrl url), apiKey⟩

/-- Whether a text can be the value of a header: a tab is the only control in it. -/
def isHeaderValue (text : String) : Bool :=
  text.toList.all fun c => c == '\t' || (0x20 ≤ c.toNat && c.toNat != 0x7f)

/-- The address as requests show it, without the name and the password of a user. -/
def Request.shownUrl (r : Request) : Url := { r.url with user := [], password := [] }

/-- What becomes of a request. -/
def Request.fault (r : Request) : DashClawFault :=
  if isHeaderValue r.apiKey then
    .request ("error sending request for url (" ++ r.shownUrl.text ++ ")")
  else .request "builder error"

end ToolPolicy.DashClaw
