import ToolPolicy.DashClaw.Fault
import ToolPolicy.DashClaw.Record
import ToolPolicy.Node.Text
import ToolPolicy.Policy.Document
import ToolPolicy.Text.Blank
import ToolPolicy.Text.Lower

/-! From DashClaw records to policies.

The type of a record decides the rule and the tools it applies to. Settings for which rules have no
field are kept under keys that begin with an underscore. Records without tests get placeholders. -/

namespace ToolPolicy.DashClaw

/-- Why a record has no policy. -/
inductive ConversionFault where
  | rulesNotJson (e : Json.Error)
  | noIdentity
  | actionTypesNotList (found : Node)

def ConversionFault.message : ConversionFault → String
  | rulesNotJson e => "rules is not valid JSON: " ++ e.message
  | noIdentity => "policy has neither id nor name"
  | actionTypesNotList found => "rules.action_types must be a list, got " ++ found.typeName

/-- The settings of a record; a text holds them as JSON, and a null is as good as none. -/
def settings (r : Record) : Except ConversionFault Node :=
  match r.rules with
  | none | some .null => .ok (.mapping [])
  -- The text is read here and not with the record, so that its fault names the policy.
  | some (.string text) =>
    match Json.parse text with
    | .ok value => .ok value.toNode
    | .error e => .error (.rulesNotJson e)
  | some value => .ok value.toNode

/-- A name in lower case with an underscore for each run of blanks. -/
def slug (afterBlank : Bool) : List Char → List Char
  | [] => []
  | c :: rest =>
    if Blank.isBlank c then
      -- Further blanks of a run are passed over.
      if afterBlank then slug true rest else '_' :: slug true rest
    else Lower.ofChar c ++ slug false rest

/-- The identifier of a record, or else one made from its name. -/
def identifier? (r : Record) : Option String :=
  match (r.id.map Json.Value.toNode).filter Node.isPresent with
  | some id => some id.text
  | none => (r.name.filter (· != "")).map fun name => String.ofList (slug false name.toList)

/-- The action types that settings name. -/
def actionTypes (settings : Node) : Except ConversionFault (Option (List Node)) :=
  match settings.get? "action_types" with
  | none | some .null => .ok none
  | some (.sequence items) => .ok (some items)
  | some found => .error (.actionTypesNotList found)

/-- A setting, or its default where it counts as missing. -/
def settingOr (settings : Node) (key : String) (default : Node) : Node :=
  (settings.getPresent? key).getD default

/-- The rule for a type of records. -/
def payload (policyType : String) (settings : Node) : Node :=
  let block : String × Node := ("block", .bool true)
  let approval : String × Node := ("require", .string "approval")
  let kind : String × Node := ("_dashclaw_type", .string policyType)
  let setting (name key : String) (default : Node) : String × Node :=
    (name, settingOr settings key default)
  .mapping (match policyType with
    | "require_approval" => [approval]
    | "block_action_type" => [block]
    | "risk_threshold" =>
      [block, kind, setting "_threshold" "threshold" (.int 80),
        setting "_action" "action" (.string "block")]
    | "rate_limit" =>
      [block, kind, setting "_max_actions" "max_actions" (.int 50),
        setting "_window_minutes" "window_minutes" (.int 60)]
    -- The address has no default: where none is set the field is left out.
    | "webhook_check" =>
      [approval, kind] ++ ((settings.getPresent? "url").map fun url => ("_url", url)).toList ++
        [setting "_timeout_ms" "timeout_ms" (.int 5000),
          setting "_on_timeout" "on_timeout" (.string "allow")]
    | "behavioral_anomaly" | "semantic_check" =>
      [block, kind, ("_note", .string "Advanced policy type - test generation limited")]
    | _ => [block, kind])

/-- A test of a tool, with an approval or its refusal where that is given. -/
def testCase (name : String) (tool : Node) (approval : Option Bool) (isAllowed : Bool) : Node :=
  .mapping [
    ("name", .string name),
    ("input", .mapping (
      [("tool", tool), ("args", .mapping [])] ++
        (approval.map fun b => ("approval", Node.bool b)).toList)),
    ("expect", .mapping [("allowed", .bool isAllowed)])]

/-- The tests of a record that has none of its own. -/
def placeholderTests (policyType : String) (actions : Option (List Node)) : List Node :=
  let firstAction (default : String) : Node := (actions.bind List.head?).getD (.string default)
  match policyType with
  | "require_approval" =>
    -- An empty list of actions names none, so that the default is tested here too.
    let tool := firstAction "external_send"
    [testCase "blocks_without_approval" tool (some false) false,
      testCase "allows_with_approval" tool (some true) true]
  | "block_action_type" => [testCase "blocks_action_type" (firstAction "destructive") none false]
  | _ => [testCase "placeholder_test" (.string "example_tool") none false]

/-- Whether a type of records is about action types. -/
def isAboutActions (policyType : String) : Bool :=
  policyType == "require_approval" || policyType == "block_action_type"

/-- The policy of a record. -/
def convertRecord (r : Record) : Except ConversionFault Rule := do
  let settings ← settings r
  let some id := identifier? r | throw .noIdentity
  let actions ← actionTypes settings
  -- Action types must be a list for every type of records, but only two types make tools of them.
  let tools := if isAboutActions r.policyType then actions else none
  return {
    id := id
    description := r.name
    tools := tools.getD [.string "*"]
    payload := payload r.policyType settings
    tests := ((settings.get? "tests").bind Node.items?).getD
      (placeholderTests r.policyType actions) }

/-- The policy of the record at an index. -/
def convertPolicy (index : Nat) (r : Record) : Except DashClawFault Rule :=
  (convertRecord r).mapError fun fault => .invalidPolicy index fault.message

/-- The policies of the records from an index on that are not switched off. -/
def convertFrom : Nat → List Record → Except DashClawFault (List Rule)
  | _, [] => .ok []
  | index, r :: rest => do
    -- A record that is switched off is not even checked, and still counts in the index.
    if r.isInactive then convertFrom (index + 1) rest
    else
      let rule ← convertPolicy index r
      return rule :: (← convertFrom (index + 1) rest)

/-- The project of converted records, where no other one is named. -/
def defaultProject : String := "dashclaw-policies"

/-- The document of records. -/
def convertPolicies (records : List Record) (project : String) :
    Except DashClawFault PolicyDocument := do
  return { version := 1, project := some project, policies := ← convertFrom 0 records }

end ToolPolicy.DashClaw
