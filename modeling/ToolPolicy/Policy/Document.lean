import ToolPolicy.Content
import ToolPolicy.Policy.Validator

/-! Policy documents as types, read from accepted trees and written in the order of their fields. -/

namespace ToolPolicy

/-- A named rule with the tools it applies to. -/
structure Rule where
  id : String
  description : Option String
  tools : List Node
  payload : Node
  tests : List Node
deriving Inhabited

/-- The rules of a project. -/
structure PolicyDocument where
  version : Nat
  project : Option String
  policies : List Rule
deriving Inhabited

namespace Rule

/-- The rule of an accepted policy. -/
def ofNode (policy : Node) : Rule where
  id := Node.textOr (policy.get? "id")
  description := (policy.get? "description").bind Node.asString?
  -- The defaults below are never met for an accepted policy, save those of what may be left out.
  tools := (((policy.get? "applies_to").bind (·.get? "tools")).bind Node.items?).getD []
  payload := (policy.get? "rule").getD .null
  tests := ((policy.get? "tests").bind Node.items?).getD []

/-- The tree of a rule; a missing description and an empty list of tests are left out. -/
def toNode (r : Rule) : Node :=
  .mapping (
    [("id", .string r.id)] ++
    (r.description.map fun d => ("description", Node.string d)).toList ++
    [("applies_to", .mapping [("tools", .sequence r.tools)]), ("rule", r.payload)] ++
    (if r.tests.isEmpty then [] else [("tests", .sequence r.tests)]))

/-- A rule as it is written, field by field. -/
def content (r : Rule) : Content :=
  .mapping (
    ("id", .string r.id) ::
    -- Fields that may be left out are not written as nulls.
    (match r.description with
      | some d => [("description", .string d)]
      | none => []) ++
    ("applies_to", .mapping [("tools", .sequence (Node.itemContents r.tools))]) ::
    ("rule", r.payload.content) ::
    (match r.tests with
      | [] => []
      | tests => [("tests", .sequence (Node.itemContents tests))]))

/-- Equality of data. -/
def same (a b : Rule) : Bool :=
  a.id == b.id && a.description == b.description && Node.sameItems a.tools b.tools &&
    a.payload.same b.payload && Node.sameItems a.tests b.tests

/-- The rules agree one by one. -/
def sameAll : List Rule → List Rule → Bool
  | [], [] => true
  | a :: as, b :: bs => a.same b && sameAll as bs
  | _, _ => false

end Rule

namespace PolicyDocument

/-- The rules of a tree, or its first violation. -/
def ofNode (doc : Node) : Except Violation PolicyDocument :=
  match validatePolicy doc with
  | .error v => .error v
  | .ok () =>
    .ok
      { version := 1
        project := (doc.get? "project").bind Node.asString?
        policies := (((doc.get? "policies").bind Node.items?).getD []).map Rule.ofNode }

/-- The first rule with an identifier. -/
def policy? (d : PolicyDocument) (id : String) : Option Rule := d.policies.find? (·.id == id)

/-- The tree of a document; a missing project is left out. -/
def toNode (d : PolicyDocument) : Node :=
  .mapping (
    [("version", .int (Int64.ofNat d.version))] ++
    (d.project.map fun p => ("project", Node.string p)).toList ++
    [("policies", .sequence (d.policies.map Rule.toNode))])

/-- A document as it is written, field by field. -/
def content (d : PolicyDocument) : Content :=
  .mapping (
    ("version", .int d.version) ::
    (match d.project with
      | some p => [("project", .string p)]
      | none => []) ++
    [("policies", .sequence (d.policies.map Rule.content))])

/-- Equality of data. -/
def same (a b : PolicyDocument) : Bool :=
  a.version == b.version && a.project == b.project && Rule.sameAll a.policies b.policies

end PolicyDocument

end ToolPolicy
