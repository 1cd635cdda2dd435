import ToolPolicy.DashClaw.Conversion
import ToolPolicy.Proofs.Except
import ToolPolicy.Proofs.Node.Text

/-! What a successful conversion of DashClaw records yields, record by record. -/

namespace ToolPolicy.DashClaw

/-- The settings of a record hold a value under a key. -/
def Record.Gives (r : Record) (key : String) (value : Node) : Prop :=
  ∃ s, settings r = .ok s ∧ s.get? key = some value

/-- A record gives what stands in the settings that are read from it. -/
theorem Record.gives_iff {r : Record} {s : Node} (read : settings r = .ok s) (key : String)
    (value : Node) : r.Gives key value ↔ s.get? key = some value := by
  unfold Record.Gives
  constructor
  · -- Settings are read in one way only.
    rintro ⟨_, again, held⟩
    cases read.symm.trans again
    exact held
  · intro held
    exact ⟨s, read, held⟩

/-- The two types of records that action types have a meaning for. -/
theorem isAboutActions_iff (policyType : String) :
    isAboutActions policyType = true ↔
      policyType = "require_approval" ∨ policyType = "block_action_type" := by
  simp [isAboutActions]

/-- Settings that name action types hold a list of them. -/
theorem actionTypes_eq_some_iff (s : Node) (items : List Node) :
    actionTypes s = .ok (some items) ↔ s.get? "action_types" = some (.sequence items) := by
  unfold actionTypes
  -- A null counts as no list, and any other value is refused.
  cases s.get? "action_types" with
  | none => simp
  | some value => cases value <;> simp

/-- An identifier is made from every name that is not empty. -/
theorem slug_ne_nil {name : List Char} (named : name ≠ []) : slug false name ≠ [] := by
  -- The first character yields an underscore or its lower case, of which neither is empty.
  cases name with
  | nil => exact absurd rfl named
  | cons c rest =>
    rw [slug]
    split
    · simp
    · simp [Lower.ofChar_ne_nil]

/-- No record has the empty identifier. -/
theorem identifier?_ne_empty {r : Record} {id : String} (found : identifier? r = some id) :
    id ≠ "" := by
  unfold identifier? at found
  split at found
  · -- A value of the record itself is taken only if it counts as present.
    rename_i value given
    cases found
    rw [Option.filter_eq_some_iff] at given
    exact Node.text_ne_empty given.2
  · simp only [Option.map_eq_some_iff, Option.filter_eq_some_iff] at found
    obtain ⟨name, ⟨given, filled⟩, rfl⟩ := found
    have named : name.toList ≠ [] := by simpa using filled
    simpa using slug_ne_nil named

/-- No rule has an empty payload. -/
theorem payload_isPresent (policyType : String) (settings : Node) :
    (payload policyType settings).isPresent = true := by
  unfold payload
  -- Whatever the type, the rule begins with an entry.
  dsimp only
  split <;> rfl

/-- A record is converted exactly when its settings, its identifier and its action types are
there, and the rule is made of these. -/
theorem convertRecord_eq_ok_iff (r : Record) (rule : Rule) :
    convertRecord r = .ok rule ↔
      ∃ s id actions, settings r = .ok s ∧ identifier? r = some id ∧ actionTypes s = .ok actions ∧
        rule = {
          id := id
          description := r.name
          tools := (if isAboutActions r.policyType then actions else none).getD [.string "*"]
          payload := payload r.policyType s
          tests := ((s.get? "tests").bind Node.items?).getD
            (placeholderTests r.policyType actions) } := by
  simp only [convertRecord, bind_eq_ok_iff, pure, Except.pure]
  -- The identifier is the only part whose absence is a fault of its own.
  constructor
  · rintro ⟨s, read, converted⟩
    cases found : identifier? r with
    | none => simp [found, throw, throwThe, MonadExceptOf.throw] at converted
    | some id =>
      simp only [found, bind_eq_ok_iff, Except.ok.injEq] at converted
      -- The list of action types is read last, and it can be refused too.
      obtain ⟨actions, listed, rfl⟩ := converted
      exact ⟨s, id, actions, read, rfl, listed, rfl⟩
  · rintro ⟨s, id, actions, read, found, listed, rfl⟩
    refine ⟨s, read, ?_⟩
    simp only [found, bind_eq_ok_iff, Except.ok.injEq]
    exact ⟨actions, listed, rfl⟩

/-- The index of a record is shown by a fault only. -/
theorem convertPolicy_eq_ok_iff (index : Nat) (r : Record) (rule : Rule) :
    convertPolicy index r = .ok rule ↔ convertRecord r = .ok rule := by
  unfold convertPolicy
  cases convertRecord r with
  -- A fault is only put in other words, which makes no rule of it.
  | error fault =>
    constructor
    · intro converted
      cases converted
    · intro converted
      cases converted
  | ok converted =>
    show (Except.ok converted : Except DashClawFault Rule) = .ok rule ↔ _
    rw [Except.ok.injEq, Except.ok.injEq]

/-- The converted rules are those of the records that are not switched off, in their order. -/
theorem convertFrom_eq_ok_iff (records : List Record) (index : Nat) (rules : List Rule) :
    convertFrom index records = .ok rules ↔
      (records.filter (!·.isInactive)).map convertRecord = rules.map .ok := by
  -- A record that is off takes up an index and nothing else.
  induction records generalizing index rules with
  | nil => simp [convertFrom, eq_comm]
  | cons r rest ih =>
    rw [convertFrom]
    cases off : r.isInactive with
    | true => simp [off, ih]
    | false =>
      simp only [off, Bool.not_false, List.filter_cons_of_pos, Bool.false_eq_true, if_false,
        bind_eq_ok_iff, convertPolicy_eq_ok_iff, pure, Except.pure, Except.ok.injEq, ih,
        List.map_cons]
      constructor
      · rintro ⟨rule, converted, later, rest, rfl⟩
        rw [converted, rest, List.map_cons]
      -- The first result is the one of the record, and the others are left to the induction.
      · intro all
        obtain ⟨rule, later, rfl, converted, rest⟩ := List.map_eq_cons_iff.mp all.symm
        exact ⟨rule, converted.symm, later, rest.symm, rfl⟩

/-- A document is converted from the records that are not switched off. -/
theorem convertPolicies_eq_ok_iff (records : List Record) (project : String)
    (document : PolicyDocument) :
    convertPolicies records project = .ok document ↔
      ∃ rules, (records.filter (!·.isInactive)).map convertRecord = rules.map .ok ∧
        document = { version := 1, project := some project, policies := rules } := by
  simp only [convertPolicies, bind_eq_ok_iff, convertFrom_eq_ok_iff, pure, Except.pure,
    Except.ok.injEq, eq_comm (b := document)]

/-- Every record that is on has its rule among the converted ones. -/
theorem exists_rule_of_mem {records : List Record} {rules : List Rule}
    (converted : (records.filter (!·.isInactive)).map convertRecord = rules.map .ok) {r : Record}
    (member : r ∈ records) (isOn : r.isInactive = false) :
    ∃ rule ∈ rules, convertRecord r = .ok rule := by
  -- Being on, the record is among those that are converted.
  have kept : convertRecord r ∈ (records.filter (!·.isInactive)).map convertRecord :=
    List.mem_map_of_mem (List.mem_filter.mpr ⟨member, by simp [isOn]⟩)
  rw [converted, List.mem_map] at kept
  obtain ⟨rule, among, same⟩ := kept
  exact ⟨rule, among, same.symm⟩

/-- Every converted rule is the one of a record that is on. -/
theorem exists_record_of_mem {records : List Record} {rules : List Rule}
    (converted : (records.filter (!·.isInactive)).map convertRecord = rules.map .ok) {rule : Rule}
    (among : rule ∈ rules) :
    ∃ r ∈ records, r.isInactive = false ∧ convertRecord r = .ok rule := by
  have made : (.ok rule : Except ConversionFault Rule) ∈ rules.map .ok := List.mem_map_of_mem among
  -- The results are those of the records that were kept.
  rw [← converted, List.mem_map] at made
  obtain ⟨r, member, made⟩ := made
  obtain ⟨member, isOn⟩ := List.mem_filter.mp member
  exact ⟨r, member, by simpa using isOn, made⟩

end ToolPolicy.DashClaw
