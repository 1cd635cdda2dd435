import ToolPolicy.Proofs.DashClaw.Conversion
import ToolPolicy.Proofs.Policy.Document

/-! Which converted documents are accepted: all but those with an empty list of action types. -/

namespace ToolPolicy.DashClaw

/-- A record that is on and that has an empty list of action types where its type needs some. -/
structure Record.LacksTools (r : Record) : Prop where
  isOn : r.isInactive = false
  isAbout : r.policyType = "require_approval" ∨ r.policyType = "block_action_type"
  givesNone : r.Gives "action_types" (.sequence [])

/-- A converted record has no tools exactly where the record lacks them. -/
theorem tools_eq_nil_iff {r : Record} {rule : Rule} (isOn : r.isInactive = false)
    (converted : convertRecord r = .ok rule) : rule.tools = [] ↔ r.LacksTools := by
  obtain ⟨s, id, actions, read, _, listed, rfl⟩ := (convertRecord_eq_ok_iff r rule).mp converted
  dsimp only
  constructor
  · intro empty
    -- The star stands wherever no list counts, so that an empty list is the one of the record.
    split at empty
    · rename_i about
      cases actions with
      | none => cases empty
      | some items =>
        cases empty
        have held := (actionTypes_eq_some_iff s []).mp listed
        exact ⟨isOn, (isAboutActions_iff _).mp about, s, read, held⟩
    · cases empty
  · intro lacks
    -- In the other direction the type makes the list count, and the list is empty.
    have held := (Record.gives_iff read _ _).mp lacks.givesNone
    cases listed.symm.trans ((actionTypes_eq_some_iff s []).mpr held)
    rw [if_pos ((isAboutActions_iff _).mpr lacks.isAbout)]
    rfl

/-- Whether a record lacks tools is decided by reading its settings. -/
instance (r : Record) : Decidable r.LacksTools :=
  decidable_of_iff
    (r.isInactive = false ∧
      (r.policyType = "require_approval" ∨ r.policyType = "block_action_type") ∧
      (match settings r with
        | .ok s => ((s.get? "action_types").bind Node.items?).any List.isEmpty
        | .error _ => false) = true) <| by
    constructor
    · rintro ⟨isOn, isAbout, none⟩
      refine ⟨isOn, isAbout, ?_⟩
      cases read : settings r with
      | error fault => simp [read] at none
      | ok s =>
        simp only [read, Option.any_eq_true, Option.bind_eq_some_iff, Node.items?_eq_some_iff,
          List.isEmpty_iff] at none
        obtain ⟨_, ⟨_, held, rfl⟩, rfl⟩ := none
        exact ⟨s, read, held⟩
    · rintro ⟨isOn, isAbout, s, read, held⟩
      refine ⟨isOn, isAbout, ?_⟩
      simp [read, held, Node.items?]

/-- The violation that a record brings about once it is converted, if there is one. -/
def Record.violation? (r : Record) : Option Violation :=
  if r.LacksTools then (identifier? r).map .missingTools else none

/-- A record that brings about a violation lacks tools, and it is named by its identifier. -/
theorem violation?_eq_some_iff (r : Record) (v : Violation) :
    r.violation? = some v ↔
      r.LacksTools ∧ ∃ id, identifier? r = some id ∧ v = .missingTools id := by
  unfold Record.violation?
  -- What is asked for the identifier matters only where tools are lacking.
  by_cases lacks : r.LacksTools
  · simp only [lacks, if_true, true_and, Option.map_eq_some_iff, eq_comm (a := v)]
  · simp [lacks]

/-- Of the records that are converted, only those bring about a violation that lack tools. -/
theorem violation?_eq_none_iff {records : List Record} {rules : List Rule}
    (converted : (records.filter (!·.isInactive)).map convertRecord = rules.map .ok) {r : Record}
    (member : r ∈ records) : r.violation? = none ↔ ¬r.LacksTools := by
  unfold Record.violation?
  -- A record that lacks tools is on, so that it was converted and has an identifier.
  by_cases lacks : r.LacksTools
  · obtain ⟨rule, _, made⟩ := exists_rule_of_mem converted member lacks.isOn
    obtain ⟨_, id, _, _, found, _⟩ := (convertRecord_eq_ok_iff r rule).mp made
    simp [lacks, found]
  · simp [lacks]

/-- A converted record can only be refused for the tools that the record lacks. -/
theorem policyViolation?_of_convertRecord {r : Record} {rule : Rule} (isOn : r.isInactive = false)
    (converted : convertRecord r = .ok rule) : policyViolation? rule.toNode = r.violation? := by
  have tools := tools_eq_nil_iff isOn converted
  obtain ⟨s, id, actions, read, found, listed, made⟩ :=
    (convertRecord_eq_ok_iff r rule).mp converted
  -- Identifier and payload of a converted rule always count as present.
  have named : rule.id ≠ "" := by
    rw [made]
    exact identifier?_ne_empty found
  have ruled : rule.payload.isPresent = true := by
    rw [made]
    exact payload_isPresent r.policyType s
  rw [Rule.policyViolation?_toNode named ruled, Record.violation?]
  by_cases lacks : r.LacksTools
  · rw [if_pos (tools.mpr lacks), if_pos lacks, found, made]
    rfl
  · rw [if_neg (mt tools.mp lacks), if_neg lacks]

/-- The first violation of converted rules is that of the first record that lacks tools. -/
theorem findSome?_converted {records : List Record} {rules : List Rule}
    (converted : (records.filter (!·.isInactive)).map convertRecord = rules.map .ok) :
    (rules.map Rule.toNode).findSome? policyViolation? = records.findSome? Record.violation? := by
  -- A record that is off has no rule, and it brings about no violation either.
  induction records generalizing rules with
  | nil =>
    have none : rules = [] := List.map_eq_nil_iff.mp converted.symm
    rw [none]
    rfl
  | cons r rest ih =>
    rw [List.findSome?_cons]
    cases off : r.isInactive with
    | true =>
      have silent : r.violation? = none := if_neg fun lacks => by
        rw [lacks.isOn] at off
        cases off
      simp only [off, Bool.not_true, Bool.false_eq_true, not_false_eq_true,
        List.filter_cons_of_neg] at converted
      rw [silent, ih converted]
    | false =>
      simp only [off, Bool.not_false, List.filter_cons_of_pos, List.map_cons] at converted
      -- A record that is on comes first among the records and its rule first among the rules.
      obtain ⟨rule, later, rfl, here, after⟩ := List.map_eq_cons_iff.mp converted.symm
      rw [List.map_cons, List.findSome?_cons, ih after.symm,
        policyViolation?_of_convertRecord off here.symm]

/--
A converted document is accepted exactly where no record lacks tools.

Any other one is refused for the tools of the first record that lacks them, and for nothing else.
-/
theorem validatePolicy_converted {records : List Record} {project : String}
    {document : PolicyDocument} (converted : convertPolicies records project = .ok document) :
    (validatePolicy document.toNode = .ok () ↔ ∀ r ∈ records, ¬r.LacksTools) ∧
    ∀ v, validatePolicy document.toNode = .error v ↔
      ∃ before r after id, records = before ++ r :: after ∧
        (∀ earlier ∈ before, ¬earlier.LacksTools) ∧ r.LacksTools ∧
        identifier? r = some id ∧ v = .missingTools id := by
  obtain ⟨rules, made, rfl⟩ := (convertPolicies_eq_ok_iff records project document).mp converted
  -- The violations of the document are those of the records, in the order of the records.
  rw [validatePolicy_eq, PolicyDocument.documentViolation?_toNode rfl, findSome?_converted made]
  constructor
  -- Without a violation the search of the records finds nothing, and the check passes.
  · have clean : (∀ r ∈ records, r.violation? = none) ↔ ∀ r ∈ records, ¬r.LacksTools :=
      forall₂_congr fun r member => violation?_eq_none_iff made member
    rw [← clean, ← List.findSome?_eq_none_iff]
    cases records.findSome? Record.violation? with
    | none => simp
    | some v => simp
  · intro v
    -- The first violation is read off the list that is searched for it.
    have charged : records.findSome? Record.violation? = some v ↔
        ∃ before r after id, records = before ++ r :: after ∧
          (∀ earlier ∈ before, ¬earlier.LacksTools) ∧ r.LacksTools ∧
          identifier? r = some id ∧ v = .missingTools id := by
      rw [List.findSome?_eq_some_iff]
      constructor
      · rintro ⟨before, r, after, parts, found, silent⟩
        obtain ⟨lacks, id, named, same⟩ := (violation?_eq_some_iff r v).mp found
        refine ⟨before, r, after, id, parts, fun earlier member => ?_, lacks, named, same⟩
        exact (violation?_eq_none_iff made (by simp [parts, member])).mp (silent earlier member)
      · rintro ⟨before, r, after, id, parts, silent, lacks, named, same⟩
        refine ⟨before, r, after, parts, ?_, fun earlier member => ?_⟩
        · exact (violation?_eq_some_iff r v).mpr ⟨lacks, id, named, same⟩
        · exact (violation?_eq_none_iff made (by simp [parts, member])).mpr
            (silent earlier member)
    rw [← charged]
    cases records.findSome? Record.violation? with
    | none => simp
    | some u => simp

/-- A record without action types, and two with an empty list of them, of which one is off. -/
def unevenRecords : List Record := [
  { id := some (.string "any_tool"), name := none, policyType := "require_approval", rules := none,
    active := none },
  { id := some (.string "off"), name := none, policyType := "block_action_type",
    rules := some (.object [("action_types", .array [])]),
    active := some (.number (.integer 0)) },
  { id := some (.string "no_tool"), name := none, policyType := "block_action_type",
    rules := some (.object [("action_types", .array [])]), active := none }]

/-- The uneven records are converted, and their document is refused for the last one of them. -/
theorem unevenRecords_refused :
    ∃ document, convertPolicies unevenRecords "demo" = .ok document ∧
      validatePolicy document.toNode = .error (.missingTools "no_tool") := by
  obtain ⟨document, converted⟩ :
      ∃ document, convertPolicies unevenRecords "demo" = .ok document := ⟨_, rfl⟩
  refine ⟨document, converted, ((validatePolicy_converted converted).2 _).mpr ?_⟩
  refine ⟨unevenRecords.take 2, unevenRecords[2], [], "no_tool", rfl, ?_, ?_, rfl, rfl⟩
  -- The record in the middle has no action types either, but it is off.
  · decide
  · decide

end ToolPolicy.DashClaw
