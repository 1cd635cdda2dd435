import ToolPolicy.Loader.Basic
import ToolPolicy.Proofs.DashClaw.Conversion
import ToolPolicy.Proofs.DashClaw.Export
import ToolPolicy.Proofs.Json.Parser
import ToolPolicy.Proofs.Policy.Content
import ToolPolicy.Proofs.Policy.View
import ToolPolicy.Proofs.Yaml.Tree

/-! The policy file that records are converted into is read back as the converted document. -/

namespace ToolPolicy

/-- What a sound tree has under a key is sound. -/
theorem Node.IsSound.get? {n value : Node} {key : String} (sound : n.IsSound)
    (found : n.get? key = some value) : value.IsSound := by
  obtain ⟨entries, rfl, under⟩ := (get?_eq_some_iff n key value).mp found
  exact (isSound_mapping_iff.mp sound).2 _ (Entries.mem_of_lookup under)

namespace DashClaw

/-! ### Records -/

/-- Whether the settings of a record are sound. -/
def Record.IsSound (r : Record) : Prop := ∀ value ∈ r.rules, Json.IsSound value

/-- A record that a sound element stands for is sound. -/
theorem Record.isSound_of_standsFor {element : Json.Value} {r : Record}
    (stands : StandsFor element r) (sound : Json.IsSound element) : r.IsSound := by
  intro value member
  cases stands with
  -- The settings are one of the values of the element, under a name or at a place.
  | named fields =>
    obtain ⟨found, -⟩ := (fields.rules value).mp member
    exact (Json.isSound_object_iff.mp sound).2 _ (Entries.mem_of_lookup found)
  | placed short fields =>
    obtain ⟨found, -⟩ := (fields.rules value).mp member
    exact Json.isSound_array_iff.mp sound value (List.mem_of_getElem? found)

/-- The elements that a text holds are sound. -/
theorem Lists.isSound {text : String} {elements : List Json.Value} (listed : Lists text elements) :
    ∀ element ∈ elements, Json.IsSound element := by
  cases listed with
  | bare parsed => exact Json.isSound_array_iff.mp (Json.isSound_of_parse parsed)
  | wrapped parsed found =>
    have parts := (Json.isSound_object_iff.mp (Json.isSound_of_parse parsed)).2
    exact Json.isSound_array_iff.mp (parts _ (Entries.mem_of_lookup found))

/-- The records of an export are sound. -/
theorem isSound_of_parseExport {text : String} {records : List Record}
    (exported : parseExport text = .ok records) : ∀ r ∈ records, r.IsSound := by
  obtain ⟨elements, listed, stand⟩ := (parseExport_eq_ok_iff text records).mp exported
  intro r member
  obtain ⟨element, among, stands⟩ := exists_of_mem_forall₂ stand member
  exact Record.isSound_of_standsFor stands (listed.isSound element among)

/-! ### Rules -/

/-- The settings of a sound record are a sound tree. -/
theorem isSound_settings {r : Record} {s : Node} (sound : r.IsSound) (read : settings r = .ok s) :
    s.IsSound := by
  have none : (Node.mapping []).IsSound := Node.isSound_mapping_iff.mpr (by simp)
  unfold settings at read
  split at read
  · cases read
    exact none
  · cases read
    exact none
  -- A text is read as JSON, and what is read from JSON is sound.
  · split at read
    · next value parsed =>
      cases read
      exact Json.isSound_of_parse parsed
    · cases read
  · next value _ _ held =>
    cases read
    exact sound value held

/-- A setting or its default is sound. -/
theorem isSound_settingOr {s default : Node} (key : String) (sound : s.IsSound)
    (other : default.IsSound) : (settingOr s key default).IsSound := by
  unfold settingOr Node.getPresent?
  cases found : (s.get? key).filter Node.isPresent with
  | none => exact other
  | some value => exact sound.get? (Option.filter_eq_some_iff.mp found).1

/-- The rule for a type of records is sound. -/
theorem isSound_payload (policyType : String) {s : Node} (sound : s.IsSound) :
    (payload policyType s).IsSound := by
  -- Every setting is a value of the record or else a default.
  have setting (key : String) (n : Int64) : (settingOr s key (.int n)).IsSound :=
    isSound_settingOr key sound (Node.isSound_int n)
  have choice (key t : String) : (settingOr s key (.string t)).IsSound :=
    isSound_settingOr key sound (Node.isSound_string t)
  have present (value : Node) (found : s.getPresent? "url" = some value) : value.IsSound :=
    sound.get? (Option.filter_eq_some_iff.mp found).1
  unfold payload
  dsimp only
  split <;> refine Node.isSound_mapping_iff.mpr ⟨?_, ?_⟩
  -- Only a link may be missing.
  case h_5.refine_1 => cases s.getPresent? "url" <;> simp
  case h_5.refine_2 =>
    cases found : s.getPresent? "url" with
    | none => simp [setting, choice]
    | some value => simp [setting, choice, present value found]
  all_goals simp [setting, choice]

/-- A test of a sound tool is sound. -/
theorem isSound_testCase (name : String) {tool : Node} (approval : Option Bool) (isAllowed : Bool)
    (sound : tool.IsSound) : (testCase name tool approval isAllowed).IsSound := by
  unfold testCase
  cases approval <;> simp [Node.isSound_mapping_iff, sound]

/-- Placeholder tests of sound action types are sound. -/
theorem isSound_placeholderTests (policyType : String) {actions : Option (List Node)}
    (sound : ∀ items ∈ actions, ∀ item ∈ items, item.IsSound) :
    ∀ test ∈ placeholderTests policyType actions, test.IsSound := by
  -- The tool of a placeholder is the first action type, or else a word.
  have first (t : String) : ((actions.bind List.head?).getD (.string t)).IsSound := by
    cases found : actions.bind List.head? with
    | none => exact Node.isSound_string t
    | some tool =>
      obtain ⟨items, listed, head⟩ := Option.bind_eq_some_iff.mp found
      exact sound items listed tool (List.mem_of_head? head)
  unfold placeholderTests
  dsimp only
  split
  · simp only [List.forall_mem_cons]
    exact ⟨isSound_testCase _ _ _ (first _), isSound_testCase _ _ _ (first _), by simp⟩
  · simpa using isSound_testCase _ _ _ (first _)
  · simpa using isSound_testCase _ _ _ (Node.isSound_string _)

/-- The rule of a sound record has sound parts. -/
theorem isSound_of_convertRecord {r : Record} {rule : Rule} (sound : r.IsSound)
    (converted : convertRecord r = .ok rule) :
    (∀ tool ∈ rule.tools, tool.IsSound) ∧ rule.payload.IsSound ∧
      ∀ test ∈ rule.tests, test.IsSound := by
  obtain ⟨s, id, actions, read, -, listed, rfl⟩ := (convertRecord_eq_ok_iff r rule).mp converted
  have settled := isSound_settings sound read
  -- The action types are part of the settings, and sound with them.
  have acts : ∀ items ∈ actions, ∀ item ∈ items, item.IsSound := by
    rintro items rfl
    have held := settled.get? ((actionTypes_eq_some_iff s items).mp listed)
    exact Node.isSound_sequence_iff.mp held
  refine ⟨?_, isSound_payload r.policyType settled, ?_⟩
  -- The tools are the action types or the star, and the tests are given or made up.
  · dsimp only
    split
    · cases actions with
      | none => simp
      | some items => exact acts items rfl
    · simp
  · dsimp only
    cases found : (s.get? "tests").bind Node.items? with
    | none => exact isSound_placeholderTests r.policyType acts
    | some tests =>
      obtain ⟨value, held, items⟩ := Option.bind_eq_some_iff.mp found
      rw [Node.items?_eq_some_iff] at items
      exact Node.isSound_sequence_iff.mp (items ▸ settled.get? held)

end DashClaw

/-- The tree of a rule with sound parts is sound. -/
theorem Rule.isSound_toNode {r : Rule} (tools : ∀ tool ∈ r.tools, tool.IsSound)
    (payload : r.payload.IsSound) (tests : ∀ test ∈ r.tests, test.IsSound) : r.toNode.IsSound := by
  obtain ⟨id, description, called, body, cases⟩ := r
  have scope : (Node.mapping [("tools", .sequence called)]).IsSound := by
    simpa [Node.isSound_mapping_iff] using Node.isSound_sequence_iff.mpr tools
  have tested : (Node.sequence cases).IsSound := Node.isSound_sequence_iff.mpr tests
  unfold toNode
  dsimp only at payload ⊢
  rw [Node.isSound_mapping_iff]
  -- A description may be missing, and so may the tests.
  cases description <;> split <;> simp [scope, payload, tested]

/-- The tree of a document of sound rules is sound. -/
theorem PolicyDocument.isSound_toNode {d : PolicyDocument}
    (rules : ∀ r ∈ d.policies, r.toNode.IsSound) : d.toNode.IsSound := by
  obtain ⟨version, project, policies⟩ := d
  have listed : (Node.sequence (policies.map Rule.toNode)).IsSound := by
    rw [Node.isSound_sequence_iff, List.forall_mem_map]
    exact rules
  unfold toNode
  rw [Node.isSound_mapping_iff]
  cases project <;> simp [listed]

namespace DashClaw

/-- The document of an export is sound. -/
theorem isSound_of_convertPolicies {text project : String} {records : List Record}
    {document : PolicyDocument} (exported : parseExport text = .ok records)
    (converted : convertPolicies records project = .ok document) : document.toNode.IsSound := by
  obtain ⟨rules, made, rfl⟩ := (convertPolicies_eq_ok_iff records project document).mp converted
  refine PolicyDocument.isSound_toNode fun rule among => ?_
  obtain ⟨r, member, -, converted⟩ := exists_record_of_mem made among
  obtain ⟨tools, payload, tests⟩ :=
    isSound_of_convertRecord (isSound_of_parseExport exported r member) converted
  exact Rule.isSound_toNode tools payload tests

end DashClaw

/-! ### Texts -/

/-- The line that a written document starts with. -/
def versionLine : List Char := "version: 1".toList

/-- A document starts with its version. -/
theorem PolicyDocument.exists_content {d : PolicyDocument} (versioned : d.version = 1) :
    ∃ entries, d.content = .mapping (("version", .int 1) :: entries) := by
  obtain ⟨version, project, policies⟩ := d
  subst versioned
  exact ⟨_, rfl⟩

/-- The text of a document starts with its version. -/
theorem document_version (entries : List (String × Content)) :
    ∃ rest, Yaml.document (.mapping (("version", .int 1) :: entries)) =
      versionLine ++ '\n' :: rest := by
  have first : Yaml.entryLines 0 ("version", .int 1) = versionLine ++ ['\n'] := by cbv
  rw [Yaml.document, Yaml.mappingLines_eq, first, List.append_assoc]
  exact ⟨_, rfl⟩

/-- A text that starts with a version is not blank. -/
theorem Loader.isBlankText_versionLine (rest : List Char) :
    isBlankText (versionLine ++ '\n' :: rest) = false := by
  have lines :
      Blank.lines (versionLine ++ '\n' :: rest) = versionLine :: Blank.linesFrom [] rest := by
    rfl
  have filled : isBlankLine versionLine = false := by cbv
  rw [isBlankText, lines, List.all_cons, filled, Bool.false_and]

/-- The text of a sound document is read as what is written, with its merge keys resolved. -/
theorem PolicyDocument.loadText_eq {d : PolicyDocument} (versioned : d.version = 1)
    (sound : d.content.IsSound) (shallow : d.content.depth ≤ Yaml.maxDepth) {limit : Nat}
    (within : (Yaml.write d.content).utf8ByteSize ≤ limit) :
    Loader.loadText limit (Yaml.write d.content) =
      match (Yaml.Value.ofContent d.content).merge with
      | .ok value => .ok value.toNode
      | .error fault => .error (.malformed Loader.memoryPath fault.line? fault.message) := by
  obtain ⟨entries, shape⟩ := exists_content versioned
  have parts : ¬d.content.IsLeaf := by
    rw [shape]
    exact id
  have parsed := Yaml.parse_document parts sound shallow
  -- The text starts with a letter, so that nothing is dropped and it is no comment.
  obtain ⟨rest, text⟩ := document_version entries
  rw [← shape] at text
  have marked : Loader.dropMark (Yaml.document d.content) = Yaml.document d.content := by
    rw [text]
    rfl
  have filled : Loader.isBlankText (Yaml.document d.content) = false := by
    rw [text]
    exact Loader.isBlankText_versionLine rest
  -- What is left to do is to resolve the merge keys.
  have value :
      Loader.valueOf (Yaml.document d.content) = (Yaml.Value.ofContent d.content).merge := by
    rw [Loader.valueOf, parsed]
    rfl
  rw [Loader.loadText, Loader.checkSize, if_neg (by omega)]
  show Loader.parse (Yaml.write d.content) Loader.memoryPath = _
  rw [Loader.parse, Yaml.write, String.toList_ofList, marked, filled, value]
  rfl

/-- The text of a sound document without merge keys is read as its tree. -/
theorem PolicyDocument.loadText_write {d : PolicyDocument} (versioned : d.version = 1)
    (sound : d.toNode.IsSound) (shallow : d.content.depth ≤ Yaml.maxDepth)
    (free : d.content.mentions "<<" = false) {limit : Nat}
    (within : (Yaml.write d.content).utf8ByteSize ≤ limit) :
    Loader.loadText limit (Yaml.write d.content) = .ok d.toNode := by
  have narrow : d.version < 2 ^ 32 := by
    rw [versioned]
    decide
  have same := content_toNode narrow
  -- A document that does not mention the key is not changed by merging.
  have merged : (Yaml.Value.ofContent d.content).merge = .ok (Yaml.Value.ofContent d.content) :=
    Yaml.Value.mergeWithin_ofContent free _
  rw [loadText_eq versioned (same ▸ sound) shallow within, merged]
  dsimp only
  rw [← same, Yaml.Value.toNode_ofContent d.toNode sound]

namespace DashClaw

/--
The text that an export is converted into is read back as the converted document.

A mapping with the key of a merge would be changed when it is read, and the reader gives up on
collections that lie too deep.
-/
theorem convertPolicies_reads_back {text project yaml : String} {out : Option String} {limit : Nat}
    {records : List Record} {document : PolicyDocument}
    (exported : parseExport text = .ok records)
    (converted : convertPolicies records project = .ok document)
    (rendered : Program.render document out = .ok yaml) (within : yaml.utf8ByteSize ≤ limit)
    (shallow : document.content.depth ≤ Yaml.maxDepth)
    (free : document.content.mentions "<<" = false) :
    ∃ n, Loader.loadText limit yaml = .ok n ∧ PolicyDocument.ofNode n = .ok document := by
  obtain ⟨accepted, rfl⟩ := (Program.render_eq_ok_iff document out yaml).mp rendered
  have sound := isSound_of_convertPolicies exported converted
  -- A converted document has the version that is accepted.
  have versioned : document.version = 1 := by
    obtain ⟨rules, -, rfl⟩ := (convertPolicies_eq_ok_iff records project document).mp converted
    rfl
  exact ⟨document.toNode, PolicyDocument.loadText_write versioned sound shallow free within,
    PolicyDocument.ofNode_toNode versioned accepted⟩

/-- The record of a policy with one test, which has one setting. -/
def oneTestRecord (key : String) : Record where
  id := some (.string "a")
  name := none
  policyType := "x"
  rules := some (.object [("tests", .array [.object [(key, .number (.integer 3))]])])
  active := none

/-- The document that the record is converted into. -/
def oneTestDocument (key : String) : PolicyDocument where
  version := 1
  project := some defaultProject
  policies := [{
    id := "a", description := none, tools := [.string "*"]
    payload := .mapping [("block", .bool true), ("_dashclaw_type", .string "x")]
    tests := [.mapping [(key, .int 3)]] }]

/-- The document is accepted whatever its test sets. -/
theorem render_oneTestDocument (key : String) :
    Program.render (oneTestDocument key) none = .ok (Yaml.write (oneTestDocument key).content) :=
  (Program.render_eq_ok_iff _ _ _).mpr
    ⟨PolicyDocument.validatePolicy_toNode rfl (by simp [oneTestDocument, Node.isPresent]), rfl⟩

/-- An export whose one test has an ordinary setting. -/
def settingExport : String :=
  "[\x7b\"id\":\"a\",\"policy_type\":\"x\",\"rules\":\x7b\"tests\":[\x7b\"tool\":3\x7d]\x7d\x7d]"

/-- A test with an ordinary setting is read back. -/
theorem settingExport_reads_back : ∃ records document yaml,
    parseExport settingExport = .ok records ∧
      convertPolicies records defaultProject = .ok document ∧ Program.render document none = .ok yaml ∧
      document.content.depth ≤ Yaml.maxDepth ∧ document.content.mentions "<<" = false ∧
      ∃ n, Loader.loadText yaml.utf8ByteSize yaml = .ok n ∧ PolicyDocument.ofNode n = .ok document := by
  have exported : parseExport settingExport = .ok [oneTestRecord "tool"] := by cbv
  have converted : convertPolicies [oneTestRecord "tool"] defaultProject = .ok (oneTestDocument "tool") := rfl
  have rendered := render_oneTestDocument "tool"
  have shallow : (oneTestDocument "tool").content.depth ≤ Yaml.maxDepth := by decide
  have free : (oneTestDocument "tool").content.mentions "<<" = false := by cbv
  exact ⟨_, _, _, exported, converted, rendered, shallow, free,
    convertPolicies_reads_back exported converted rendered le_rfl shallow free⟩

/-- An export whose one test has the key of a merge. -/
def mergeExport : String :=
  "[\x7b\"id\":\"a\",\"policy_type\":\"x\",\"rules\":\x7b\"tests\":[\x7b\"<<\":3\x7d]\x7d\x7d]"

/-- A test with the key of a merge makes the text unreadable, however long texts may be. -/
theorem mergeExport_unreadable : ∃ records document yaml,
    parseExport mergeExport = .ok records ∧
      convertPolicies records defaultProject = .ok document ∧ Program.render document none = .ok yaml ∧
      ∀ limit, yaml.utf8ByteSize ≤ limit →
        ¬∃ n, Loader.loadText limit yaml = .ok n ∧ PolicyDocument.ofNode n = .ok document := by
  have exported : parseExport mergeExport = .ok [oneTestRecord "<<"] := by cbv
  have converted : convertPolicies [oneTestRecord "<<"] defaultProject = .ok (oneTestDocument "<<") := rfl
  have sound := isSound_of_convertPolicies exported converted
  have narrow : (oneTestDocument "<<").version < 2 ^ 32 := by decide
  refine ⟨_, _, _, exported, converted, render_oneTestDocument "<<", ?_⟩
  rintro limit within ⟨n, loaded, -⟩
  -- The number under the key is no mapping that could be merged.
  have lost : (Yaml.Value.ofContent (oneTestDocument "<<").content).merge = .error .mergedScalar := rfl
  rw [PolicyDocument.loadText_eq rfl (PolicyDocument.content_toNode narrow ▸ sound) (by decide) within,
    lost] at loaded
  cases loaded

end DashClaw

end ToolPolicy
