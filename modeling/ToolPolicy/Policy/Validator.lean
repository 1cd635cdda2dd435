import ToolPolicy.Node.Text
import ToolPolicy.Policy.Report
import ToolPolicy.Policy.Suggestion

/-! Checking data trees against the shape of policy documents.

A document is a mapping with version one and a sequence of policies, each with an identifier, a rule
and at least one tool. Repeated identifiers and unknown keys are warned about. -/

namespace ToolPolicy

/-- Whether a run stops at the first violation. -/
inductive Mode where
  | failFast
  | collectAll
deriving DecidableEq, Repr

def documentKeys : List String := ["version", "project", "policies"]

def policyKeys : List String := ["id", "description", "rule", "applies_to", "tests"]

def scopeKeys : List String := ["tools"]

/-- A run as far as it has come. -/
structure Walk where
  report : Report
  isHalted : Bool
deriving DecidableEq, Repr

namespace Walk

/-- Notes a violation; a run that fails fast stops there. -/
def fail (w : Walk) (mode : Mode) (path : String) (v : Violation) : Walk :=
  if w.isHalted then w
  else
    ⟨{ w.report with errors := w.report.errors ++ [Issue.ofViolation path v] }, mode = .failFast⟩

/-- Notes warnings. -/
def warn (w : Walk) (issues : List Issue) : Walk :=
  if w.isHalted then w
  else { w with report := { w.report with warnings := w.report.warnings ++ issues } }

end Walk

/-- The warning about a key that is not known. -/
def unknownKeyWarning (parent : String) (known : List String) (key : String) : Issue :=
  .warning (if parent = "" then key else parent ++ "." ++ key)
    ("unknown field '" ++ key ++ "'" ++
      match suggestKey key known with
      | some suggestion => " (did you mean '" ++ suggestion ++ "'?)"
      | none => "")

/-- The warnings about the unknown keys of a value; only mappings have keys. -/
def unknownKeyWarnings (parent : String) (known : List String) (value : Node) : List Issue :=
  match value with
  | .mapping entries =>
    ((Entries.keys entries).filter (!known.contains ·)).map (unknownKeyWarning parent known)
  | _ => []

/-- The path of a policy. -/
def policyPath (index : Nat) : String := "policies[" ++ Digits.nat index ++ "]"

/-- The warning about an identifier that an earlier policy has. -/
def duplicateIdWarning (index first : Nat) (id : String) : Issue :=
  .warning (policyPath index ++ ".id")
    ("duplicate policy id '" ++ id ++ "' (first defined at " ++ policyPath first ++ ")")

/-- The display text of an identifier, unless it counts as missing. -/
def idText? (policy : Node) : Option String := (policy.getPresent? "id").map Node.text

/-- What a policy applies to; a missing or empty value applies to nothing. -/
def scope? (policy : Node) : Option Node := policy.getPresent? "applies_to"

/-- The tools of a policy. -/
def toolNodes? (policy : Node) : Option (List Node) :=
  ((scope? policy).bind (·.get? "tools")).bind Node.items?

/-- Whether a policy names at least one tool. -/
def hasTools (policy : Node) : Bool := (toolNodes? policy).any (!·.isEmpty)

/-- The identifiers seen so far with the first policies that have them. -/
abbrev SeenIds := List (String × Nat)

/-- Checks what follows the identifier of a policy. -/
def checkBody (mode : Mode) (index : Nat) (policy : Node) (id : String) (w : Walk) : Walk :=
  let path := policyPath index
  let w := w.warn (unknownKeyWarnings path policyKeys policy)
  -- An empty rule is as good as none: an empty text, list or mapping counts as missing.
  let w := if (policy.getPresent? "rule").isSome then w
    else w.fail mode (path ++ ".rule") (.missingRule id)
  -- A scope that counts as missing has no keys to warn about; its tools are missed below.
  let w := match scope? policy with
    | some scope => w.warn (unknownKeyWarnings (path ++ ".applies_to") scopeKeys scope)
    | none => w
  if hasTools policy then w else w.fail mode (path ++ ".applies_to.tools") (.missingTools id)

/-- Checks a policy, given the identifiers before it. Nothing else is said of a policy without an
identifier. -/
def checkPolicy (mode : Mode) (index : Nat) (policy : Node) (state : SeenIds × Walk) :
    SeenIds × Walk :=
  let (seen, w) := state
  match idText? policy with
  -- Without an identifier the other violations would have no policy to name.
  | none => (seen, w.fail mode (policyPath index ++ ".id") .missingId)
  | some id =>
    match seen.lookup id with
    | some first =>
      -- The identifier keeps its first place, so that every repetition points back to that one.
      (seen, checkBody mode index policy id (w.warn [duplicateIdWarning index first id]))
    | none => (seen ++ [(id, index)], checkBody mode index policy id w)

/-- Checks policies from an index on. -/
def checkPolicies (mode : Mode) : Nat → List Node → SeenIds × Walk → SeenIds × Walk
  | _, [], state => state
  | index, policy :: rest, state =>
    checkPolicies mode (index + 1) rest (checkPolicy mode index policy state)

/-- Checks a document. -/
def checkDocument (mode : Mode) (doc : Node) (w : Walk) : Walk :=
  match doc with
  | .mapping (entry :: rest) =>
    let doc : Node := .mapping (entry :: rest)
    let w := w.warn (unknownKeyWarnings "" documentKeys doc)
    -- A wrong version does not keep the policies from being checked, unless the run fails fast.
    let w := if (doc.get? "version").bind Node.asInt? = some 1 then w
      else w.fail mode "version" .invalidVersion
    match (doc.get? "policies").bind Node.items? with
    | none => w.fail mode "policies" .invalidPoliciesType
    | some policies => (checkPolicies mode 0 policies ([], w)).2
  -- A mapping without entries is judged like a value that is no mapping.
  | _ => w.fail mode "" .invalidVersion

/-- A validator keeps its findings while it runs. -/
structure Validator where
  mode : Mode
  findings : Report
deriving DecidableEq, Repr

namespace Validator

/-- A validator that has not run. -/
def ofMode (mode : Mode) : Validator := ⟨mode, .empty⟩

/-- Runs over a document. The findings of an earlier run are dropped first, and those of this run
leave the validator with the report. -/
def validate (v : Validator) (doc : Node) : Report × Validator :=
  -- The walk starts from nothing, whatever the validator still holds.
  let walk := checkDocument v.mode doc ⟨.empty, false⟩
  (walk.report, { v with findings := .empty })

/-- Runs over documents one after the other. -/
def validateAll (v : Validator) : List Node → List Report × Validator
  | [] => ([], v)
  | doc :: rest =>
    let (report, v) := v.validate doc
    let (reports, v) := validateAll v rest
    (report :: reports, v)

end Validator

/-- The findings of a fresh validator about a document. -/
def validate (mode : Mode) (doc : Node) : Report := ((Validator.ofMode mode).validate doc).1

/-- The first violation of a document, if there is one. -/
def validatePolicy (doc : Node) : Except Violation Unit := (validate .failFast doc).result

end ToolPolicy
