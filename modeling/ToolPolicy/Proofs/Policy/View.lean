import Mathlib
import ToolPolicy.Proofs.Node.Text
import ToolPolicy.Proofs.Policy.Document
import ToolPolicy.Proofs.Policy.Repetition

/-! The typed document of an accepted tree: what it shows of the tree, and that the tree written for
it is read as the same document again. -/

namespace ToolPolicy

/-- What a rule shows of the policy that it was read from. -/
structure Rule.Shows (r : Rule) (policy : Node) : Prop where
  id : ∃ id, policy.get? "id" = some id ∧ r.id = id.text
  description : ∀ text, r.description = some text ↔ policy.get? "description" = some (.string text)
  tools : ∃ scope, policy.get? "applies_to" = some (.mapping scope) ∧
    scope.lookup "tools" = some (.sequence r.tools)
  payload : policy.get? "rule" = some r.payload
  tests : policy.get? "tests" = some (.sequence r.tests) ∨
    (∀ tests, policy.get? "tests" ≠ some (.sequence tests)) ∧ r.tests = []

/-- Only a string is read as a text. -/
theorem bind_asString?_eq_some_iff (value : Option Node) (text : String) :
    value.bind Node.asString? = some text ↔ value = some (.string text) := by
  simp [Option.bind_eq_some_iff, Node.asString?_eq_some_iff]

/-- The tools of a rule are the list in the scope of the policy. -/
theorem Rule.tools_ofNode {policy : Node} {scope : List (String × Node)} {tools : List Node}
    (applied : policy.get? "applies_to" = some (.mapping scope))
    (named : scope.lookup "tools" = some (.sequence tools)) :
    (ofNode policy).tools = tools := by
  unfold ofNode
  rw [applied]
  simp [Node.get?, named, Node.items?]

/-- The rule of an accepted policy shows all of its fields. -/
theorem IsPolicy.shows {policy : Node} (shaped : IsPolicy policy) :
    (Rule.ofNode policy).Shows policy := by
  obtain ⟨_, ⟨id, found, _⟩, ⟨rule, ruled, _⟩, scope, tool, rest, applied, named⟩ := shaped
  -- Each field is looked up where the shape of the policy says that it stands.
  refine ⟨⟨id, found, by rw [Rule.ofNode, found]; rfl⟩, bind_asString?_eq_some_iff _,
    ⟨scope, applied, by rw [Rule.tools_ofNode applied named, named]⟩, ?_, ?_⟩
  · rw [ruled, Rule.ofNode, ruled]
    rfl
  · -- Tests that are no sequence are passed over, as are tests that are not there.
    cases tested : policy.get? "tests" with
    | none => exact .inr ⟨by simp, by simp [Rule.ofNode, tested]⟩
    | some value => cases value <;> simp [Rule.ofNode, tested, Node.items?]

/-- The rule of an accepted policy has an identifier, a payload and tools. -/
theorem IsPolicy.ofNode_filled {policy : Node} (shaped : IsPolicy policy) :
    (Rule.ofNode policy).id ≠ "" ∧ (Rule.ofNode policy).payload.isPresent = true ∧
      (Rule.ofNode policy).tools ≠ [] := by
  obtain ⟨_, ⟨id, found, present⟩, ⟨rule, ruled, filled⟩, scope, tool, rest, applied, named⟩ :=
    shaped
  refine ⟨?_, ?_, ?_⟩
  · rw [Rule.ofNode, found]
    -- A value that counts as present is never displayed as the empty text.
    exact Node.text_ne_empty present
  · rw [Rule.ofNode, ruled]
    exact filled
  · rw [Rule.tools_ofNode applied named]
    simp

/-- The identifier of an accepted policy is the one of its rule. -/
theorem IsPolicy.idText?_eq {policy : Node} (shaped : IsPolicy policy) :
    idText? policy = some (Rule.ofNode policy).id := by
  obtain ⟨id, found, present⟩ := shaped.holdsId
  rw [idText?_eq_some_iff]
  exact ⟨id, found, present, by rw [Rule.ofNode, found]; rfl⟩

/-! ### Rules and their trees -/

namespace Rule

/-- The tree of a rule holds its description as a text. -/
theorem get?_description_toNode (r : Rule) :
    r.toNode.get? "description" = r.description.map .string := by
  -- Tests stand under a key of their own, which does not get in the way.
  cases described : r.description <;> cases tested : r.tests <;>
    simp [toNode, Node.get?, described, tested, List.lookup_cons]

/-- The tree of a rule holds its tests, unless there are none. -/
theorem get?_tests_toNode (r : Rule) :
    r.toNode.get? "tests" = if r.tests.isEmpty then none else some (.sequence r.tests) := by
  cases described : r.description <;> cases tested : r.tests <;>
    simp [toNode, Node.get?, described, tested, List.lookup_cons]

/-- Reading the tree of a rule gives the rule. -/
theorem ofNode_toNode (r : Rule) : ofNode r.toNode = r := by
  obtain ⟨id, description, tools, payload, tests⟩ := r
  unfold ofNode
  rw [get?_id_toNode, get?_description_toNode, get?_scope_toNode, get?_rule_toNode,
    get?_tests_toNode]
  -- What was left out when it was written is what is filled in when it is read.
  have described : (description.map Node.string).bind Node.asString? = description := by
    cases description <;> rfl
  have tested : ((if tests.isEmpty then none else some (Node.sequence tests)).bind
      Node.items?).getD [] = tests := by
    cases tests <;> rfl
  simp only [described, tested]
  rfl

/-- Every key in the tree of a rule is known. -/
theorem bodyWarnings_toNode (r : Rule) (index : Nat) : bodyWarnings index r.toNode = [] := by
  have scope : scope? r.toNode = some (.mapping [("tools", .sequence r.tools)]) := by
    simp [scope?, Node.getPresent?, Node.isPresent]
  rw [bodyWarnings, scope]
  -- Four layouts are written, by what a rule leaves out; the keys of each are known.
  cases described : r.description <;> cases tested : r.tests <;>
    simp [unknownKeyWarnings, toNode, described, tested, Entries.keys, policyKeys, scopeKeys]

/-- The identifier in the tree of a rule is the one of the rule. -/
theorem idText?_toNode {r : Rule} (named : r.id ≠ "") : idText? r.toNode = some r.id := by
  rw [idText?_eq_some_iff]
  exact ⟨_, r.get?_id_toNode, by simpa [Node.isPresent] using named, Node.text_string r.id⟩

end Rule

/-- The warnings about trees of rules are about identifiers that come again. -/
theorem warningsFrom_toNode {rules : List Rule} (named : ∀ r ∈ rules, r.id ≠ "") (seen : SeenIds)
    (index : Nat) :
    (warningsFrom seen index (rules.map Rule.toNode)).filter Issue.isRepetition =
      warningsFrom seen index (rules.map Rule.toNode) := by
  -- The induction is on the rules, with the identifiers before them left open.
  induction rules generalizing seen index with
  | nil => rfl
  | cons r rest ih =>
    rw [List.forall_mem_cons] at named
    rw [List.map_cons, warningsFrom, List.filter_append, ih named.2]
    congr 1
    -- The keys of the tree are known, so that only its identifier may be warned about.
    rw [policyWarnings, r.idText?_toNode named.1]
    dsimp only
    rw [r.bodyWarnings_toNode, List.append_nil]
    cases seen.lookup r.id with
    | none => rfl
    | some first => simp [isRepetition_duplicateIdWarning]

namespace PolicyDocument

/-- The tree of a document holds its project as a text. -/
theorem get?_project_toNode (d : PolicyDocument) :
    d.toNode.get? "project" = d.project.map .string := by
  cases named : d.project <;> simp [toNode, Node.get?, named, List.lookup_cons]

/-- The tree of a document holds the trees of its rules. -/
theorem get?_policies_toNode (d : PolicyDocument) :
    d.toNode.get? "policies" = some (.sequence (d.policies.map Rule.toNode)) := by
  cases named : d.project <;> simp [toNode, Node.get?, named, List.lookup_cons]

/-- Every key at the top of the tree of a document is known. -/
theorem documentWarnings_toNode (d : PolicyDocument) :
    documentWarnings d.toNode = warningsFrom [] 0 (d.policies.map Rule.toNode) := by
  rw [documentWarnings, get?_policies_toNode]
  cases named : d.project <;>
    simp [unknownKeyWarnings, toNode, named, Entries.keys, documentKeys, Node.items?]

/-- An accepted tree has a document, with a rule for each policy. -/
theorem ofNode_eq_ok {n : Node} {policies : List Node} (accepted : validatePolicy n = .ok ())
    (listed : n.get? "policies" = some (.sequence policies)) :
    ofNode n = .ok
      { version := 1
        project := (n.get? "project").bind Node.asString?
        policies := policies.map Rule.ofNode } := by
  unfold ofNode
  rw [accepted, listed]
  rfl

/-- Reading the tree of a document gives the document, if the tree is accepted. -/
theorem ofNode_toNode {d : PolicyDocument} (versioned : d.version = 1)
    (accepted : validatePolicy d.toNode = .ok ()) : ofNode d.toNode = .ok d := by
  obtain ⟨version, project, policies⟩ := d
  subst versioned
  have named : (project.map Node.string).bind Node.asString? = project := by
    cases project <;> rfl
  have read : (policies.map Rule.toNode).map Rule.ofNode = policies := by
    rw [List.map_map]
    exact (List.map_congr_left fun r _ => r.ofNode_toNode).trans (List.map_id policies)
  rw [ofNode_eq_ok accepted (get?_policies_toNode _), get?_project_toNode, named, read]

/-- The tree of a document with filled rules is accepted. -/
theorem validatePolicy_toNode {d : PolicyDocument} (versioned : d.version = 1)
    (filled : ∀ r ∈ d.policies, r.id ≠ "" ∧ r.payload.isPresent = true ∧ r.tools ≠ []) :
    validatePolicy d.toNode = .ok () := by
  rw [validatePolicy_eq, documentViolation?_toNode versioned]
  -- No rule is charged with anything, since none lacks an identifier, a payload or tools.
  have clean : (d.policies.map Rule.toNode).findSome? policyViolation? = none := by
    rw [List.findSome?_eq_none_iff]
    intro policy member
    obtain ⟨r, among, rfl⟩ := List.mem_map.mp member
    obtain ⟨named, ruled, tooled⟩ := filled r among
    rw [Rule.policyViolation?_toNode named ruled, if_neg tooled]
  rw [clean]

/-- The tree of a document repeats the identifiers that the tree behind the document repeats. -/
theorem warnings_toNode {n : Node} {policies : List Node} {d : PolicyDocument}
    (listed : n.get? "policies" = some (.sequence policies))
    (shaped : ∀ policy ∈ policies, IsPolicy policy)
    (read : d.policies = policies.map Rule.ofNode) :
    (validate .collectAll d.toNode).warnings =
      (validate .collectAll n).warnings.filter Issue.isRepetition := by
  have named : ∀ r ∈ d.policies, r.id ≠ "" := by
    rw [read, List.forall_mem_map]
    exact fun policy member => (shaped policy member).ofNode_filled.1
  -- The identifiers of the policies are those of the rules, and those of their trees are, too.
  have inTree : policies.map idText? = (d.policies.map Rule.id).map some := by
    rw [read, List.map_map, List.map_map]
    exact List.map_congr_left fun policy member => (shaped policy member).idText?_eq
  have written : (d.policies.map Rule.toNode).map idText? = (d.policies.map Rule.id).map some := by
    rw [List.map_map, List.map_map]
    exact List.map_congr_left fun r member => r.idText?_toNode (named r member)
  -- Both trees have the same identifiers, which alone decide on the repetitions.
  have before := filter_warningsFrom_identified inTree
  have after := filter_warningsFrom_identified written
  rw [warningsFrom_toNode named] at after
  rw [validate_collectAll, validate_collectAll, documentWarnings_toNode, after, documentWarnings,
    listed, List.filter_append, filter_unknownKeyWarnings, List.nil_append]
  exact before.symm

/--
The typed document of an accepted tree is a faithful view of it and a fixed point.

It shows each policy in order. The tree that is written for it is accepted, no key of that tree is
unknown, identifiers come again in it just where they do in the first tree, and it is read as the
same document.
-/
theorem ofNode_faithful {n : Node} (accepted : validatePolicy n = .ok ()) :
    ∃ d policies, ofNode n = .ok d ∧ n.get? "policies" = some (.sequence policies) ∧
      d.version = 1 ∧
      (∀ name, d.project = some name ↔ n.get? "project" = some (.string name)) ∧
      List.Forall₂ Rule.Shows d.policies policies ∧
      validatePolicy d.toNode = .ok () ∧ ofNode d.toNode = .ok d ∧
      (validate .collectAll d.toNode).errors = [] ∧
      (∀ parent known key, unknownKeyWarning parent known key ∉
        (validate .collectAll d.toNode).warnings) ∧
      (validate .collectAll d.toNode).warnings =
        (validate .collectAll n).warnings.filter Issue.isRepetition ∧
      ∀ index,
        (∃ first id, duplicateIdWarning index first id ∈
          (validate .collectAll d.toNode).warnings) ↔
        ∃ first id, duplicateIdWarning index first id ∈ (validate .collectAll n).warnings := by
  obtain ⟨_, _, policies, listed, shaped⟩ := (validatePolicy_exact n).1.mp accepted
  have typed := ofNode_eq_ok accepted listed
  -- The document is known field by field from here on.
  generalize made : ({
      version := 1
      project := (n.get? "project").bind Node.asString?
      policies := policies.map Rule.ofNode } : PolicyDocument) = d at typed
  have versioned : d.version = 1 := by rw [← made]
  have rules : d.policies = policies.map Rule.ofNode := by rw [← made]
  have filled : ∀ r ∈ d.policies, r.id ≠ "" ∧ r.payload.isPresent = true ∧ r.tools ≠ [] := by
    rw [rules, List.forall_mem_map]
    exact fun policy member => (shaped policy member).ofNode_filled
  have again := validatePolicy_toNode versioned filled
  have warnings := warnings_toNode listed shaped rules
  have errors : (validate .collectAll d.toNode).errors = [] :=
    List.isEmpty_iff.mp ((isValid_validate_iff .collectAll d.toNode).mpr again)
  refine ⟨d, policies, typed, listed, versioned, fun name => ?_, ?_, again,
    ofNode_toNode versioned again, errors, fun parent known key => ?_, warnings, fun index => ?_⟩
  · rw [← made]
    exact bind_asString?_eq_some_iff _ name
  -- Rule by rule, each one shows the policy at its own place.
  · rw [rules, List.forall₂_map_left_iff, List.forall₂_same]
    exact fun policy member => (shaped policy member).shows
  · rw [warnings, List.mem_filter, isRepetition_unknownKeyWarning]
    simp
  · -- What is about a repetition is not left out on the way from one tree to the other.
    simp only [warnings, List.mem_filter, isRepetition_duplicateIdWarning, and_true]

/-- A tree that is accepted though much of it is passed over: two identifiers with the same text, a
key that is not known, and tests that are no list. -/
def looseTree : Node :=
  .mapping [
    ("version", .int 1), ("x", .null),
    ("policies", .sequence [
      .mapping [("id", .int 7), ("rule", .float (Double.infinity true)),
        ("applies_to", .mapping [("tools", .sequence [.null])]),
        ("tests", .string "none")],
      .mapping [("id", .string "7"), ("rule", .string "deny"), ("description", .int 3),
        ("applies_to", .mapping [("tools", .sequence [.string "*", .int 2])])]])]

/-- The loose tree is accepted, and its document is a fixed point that repeats one identifier. -/
theorem looseTree_faithful :
    validatePolicy looseTree = .ok () ∧
      ∃ d, ofNode looseTree = .ok d ∧ ofNode d.toNode = .ok d ∧
        (validate .collectAll d.toNode).warnings = [duplicateIdWarning 1 0 "7"] := by
  have accepted : validatePolicy looseTree = .ok () := by cbv
  obtain ⟨d, _, typed, _, _, _, _, _, fixed, _, _, warnings, _⟩ := ofNode_faithful accepted
  exact ⟨accepted, d, typed, fixed, by rw [warnings]; cbv⟩

end PolicyDocument

end ToolPolicy
