import Mathlib.Algebra.Ring.Nat
import ToolPolicy.Program.Convert
import ToolPolicy.Proofs.Content

/-! A typed document is written field by field just as its tree is written. -/

namespace ToolPolicy

/-- The entries of a written mapping are the written entries, those of a first part before those
of a second one. -/
theorem Node.entryContents_append (first second : List (String × Node)) :
    entryContents (first ++ second) = entryContents first ++ entryContents second := by
  -- The entries are written one by one, in their order.
  induction first with
  | nil => rfl
  | cons entry rest ih =>
    obtain ⟨key, value⟩ := entry
    rw [List.cons_append, entryContents, entryContents, ih, List.cons_append]

/-- The tree of a rule is written as the rule is: what one leaves out, the other does, too. -/
theorem Rule.content_toNode (r : Rule) : r.toNode.content = r.content := by
  obtain ⟨id, description, tools, payload, tests⟩ := r
  unfold toNode content
  rw [Node.content]
  simp only [Node.entryContents_append, Content.mapping.injEq]
  -- A description may be missing, and so may the tests; both stand at their own place.
  cases description with
  | none => cases tests <;> simp [Node.entryContents, Node.content]
  | some text => cases tests <;> simp [Node.entryContents, Node.content]

/-- A version of thirty-two bits is the same integer in a tree. -/
theorem toInt_version {version : Nat} (narrow : version < 2 ^ 32) :
    (Int64.ofNat version).toInt = version :=
  Int64.toInt_ofNat_of_lt (Nat.lt_trans narrow (by decide))

/-- The tree of a document is written as the document is. -/
theorem PolicyDocument.content_toNode {d : PolicyDocument} (narrow : d.version < 2 ^ 32) :
    d.toNode.content = d.content := by
  -- The policies are written alike, one by one.
  have rules : Node.itemContents (d.policies.map Rule.toNode) = d.policies.map Rule.content := by
    rw [Node.itemContents_eq_map, List.map_map]
    exact List.map_congr_left fun r _ => r.content_toNode
  unfold toNode content
  rw [Node.content]
  simp only [Node.entryContents_append, Content.mapping.injEq]
  cases d.project with
  | none => simp [Node.entryContents, Node.content, rules, toInt_version narrow]
  | some name => simp [Node.entryContents, Node.content, rules, toInt_version narrow]

/-- A text is rendered exactly where the tree is accepted, and it is the text of the document. -/
theorem Program.render_eq_ok_iff (d : PolicyDocument) (out : Option String) (text : String) :
    render d out = .ok text ↔ validatePolicy d.toNode = .ok () ∧ text = Yaml.write d.content := by
  unfold render
  cases validatePolicy d.toNode with
  -- A refused document has no text.
  | error violation => simp
  | ok accepted => simp [eq_comm]

/--
A document and its tree have the same content, and so the same text in YAML and in JSON.

The tree that is judged before a document is rendered is therefore the tree of the rendered text.
-/
theorem PolicyDocument.texts_agree {d : PolicyDocument} (narrow : d.version < 2 ^ 32) :
    d.toNode.content = d.content ∧
    Yaml.write d.toNode.content = Yaml.write d.content ∧
    Json.compact d.toNode.content = Json.compact d.content ∧
    (∀ depth, Json.pretty depth d.toNode.content = Json.pretty depth d.content) ∧
    ∀ out text, Program.render d out = .ok text ↔
      validatePolicy d.toNode = .ok () ∧ text = Yaml.write d.toNode.content := by
  have same := content_toNode narrow
  refine ⟨same, by rw [same], by rw [same], fun depth => by rw [same], fun out text => ?_⟩
  rw [same]
  exact Program.render_eq_ok_iff d out text

/-- A document of the greatest version, with a rule that has all its fields and one that lacks
those that may be missing. -/
def unevenDocument : PolicyDocument where
  version := 4294967295
  project := none
  policies := [
    { id := "full", description := some "all fields", tools := [.string "*", .int (-5)],
      payload := .mapping [("block", .bool true)], tests := [.null] },
    { id := "bare", description := none, tools := [], payload := .float (Double.infinity true),
      tests := [] }]

/-- The uneven document has one text, whichever way it is written. -/
theorem unevenDocument_text :
    unevenDocument.version < 2 ^ 32 ∧
      Yaml.write unevenDocument.toNode.content = Yaml.write unevenDocument.content :=
  have narrow : unevenDocument.version < 2 ^ 32 := by decide
  ⟨narrow, (PolicyDocument.texts_agree narrow).2.1⟩

end ToolPolicy
