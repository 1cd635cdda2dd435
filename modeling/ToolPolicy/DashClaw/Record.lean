import ToolPolicy.Json.Parser

/-! Records of DashClaw policies. -/

namespace ToolPolicy.DashClaw

/-- A policy as DashClaw keeps it. A null counts as absent. -/
structure Record where
  id : Option Json.Value
  name : Option String
  policyType : String
  rules : Option Json.Value
  active : Option Json.Value
deriving Inhabited

/-- Why a value is no record. -/
inductive RecordFault where
  | notRecord (found : Json.Value)
  | notString (found : Json.Value)
  | tooLong (length : Nat)

def RecordFault.message : RecordFault → String
  | notRecord found => "invalid type: " ++ found.description ++ ", expected struct DashClawPolicy"
  | notString found => "invalid type: " ++ found.description ++ ", expected a string"
  | tooLong length => "invalid length " ++ Digits.nat length ++ ", expected fewer elements in array"

namespace Record

/-- A text that may be absent. -/
def optionalText : Option Json.Value → Except RecordFault (Option String)
  | none | some .null => .ok none
  | some (.string s) => .ok (some s)
  | some found => .error (.notString found)

/-- A text that is empty where it is absent. -/
def textOrEmpty : Option Json.Value → Except RecordFault String
  | none => .ok ""
  | some (.string s) => .ok s
  | some found => .error (.notString found)

/-- The record of the values of its fields, in their order. -/
def ofFields (id name policyType rules active : Option Json.Value) : Except RecordFault Record := do
  let name ← optionalText name
  let policyType ← textOrEmpty policyType
  return {
    id := id.bind Json.Value.notNull
    name := name
    policyType := policyType
    rules := rules.bind Json.Value.notNull
    active := active.bind Json.Value.notNull }

/-- The number of the fields of a record. -/
def fieldCount : Nat := 5

/-- Reads a record from an object, or from the list of its fields in order. -/
def ofValue : Json.Value → Except RecordFault Record
  | .object entries =>
    ofFields (entries.lookup "id") (entries.lookup "name") (entries.lookup "policy_type")
      (entries.lookup "rules") (entries.lookup "active")
  | .array items => do
    let record ← ofFields items[0]? items[1]? items[2]? items[3]? items[4]?
    -- Fields that do not fit come up before the length does.
    if fieldCount < items.length then .error (.tooLong items.length) else return record
  | found => .error (.notRecord found)

/-- Whether a record is switched off: its state is the number zero. -/
def isInactive (r : Record) : Bool :=
  match r.active with
  | some (.number n) => n.toDouble.isZero
  | _ => false

end Record

end ToolPolicy.DashClaw
