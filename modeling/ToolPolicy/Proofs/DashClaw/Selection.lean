import Mathlib.Data.List.Forall2
import ToolPolicy.Proofs.DashClaw.Conversion
import ToolPolicy.Proofs.Double.Rounding

/-! Which records are converted: those that are on, in their order, up to the first that fails. -/

namespace ToolPolicy.DashClaw

namespace Record

/-- A record is off if its state is a number, and that number is zero. -/
def IsOff (r : Record) : Prop :=
  r.active = some (.number (.integer 0)) ∨
    ∃ x : Double, r.active = some (.number (.float x)) ∧ x.isZero = true

/-- A record is passed over where it is off. -/
theorem isInactive_iff (r : Record) : r.isInactive = true ↔ r.IsOff := by
  unfold isInactive IsOff
  split
  · rename_i n state
    -- A number is compared as a double, for which no integer but zero is rounded to zero.
    cases n with
    | integer n => simp [state, Number.toDouble, Double.isZero_ofInt_iff]
    | float x => simp [state, Number.toDouble]
  · rename_i other
    constructor
    · nofun
    · rintro (state | ⟨x, state, _⟩)
      · exact absurd state (other _)
      · exact absurd state (other _)

/-- A record is converted where it is not off. -/
theorem isInactive_eq_false_iff (r : Record) : r.isInactive = false ↔ ¬r.IsOff := by
  rw [← r.isInactive_iff, Bool.not_eq_true]

/-- Whether a record is off is seen from its state. -/
instance (r : Record) : Decidable r.IsOff := decidable_of_iff _ r.isInactive_iff

/-- A record is converted to a rule, whatever its place. -/
def Yields (r : Record) (rule : Rule) : Prop := ∀ index, convertPolicy index r = .ok rule

/-- A record cannot be converted, for the same reason at every place. -/
def FailsFor (r : Record) (message : String) : Prop :=
  ∀ index, convertPolicy index r = .error (.invalidPolicy index message)

/-- The place of a record is shown by a fault only. -/
theorem yields_iff (r : Record) (rule : Rule) : r.Yields rule ↔ convertRecord r = .ok rule :=
  ⟨fun yields => (convertPolicy_eq_ok_iff 0 r rule).mp (yields 0),
    fun converted index => (convertPolicy_eq_ok_iff index r rule).mpr converted⟩

/-- The message of a fault is the one of what is wrong with the record. -/
theorem failsFor_iff (r : Record) (message : String) :
    r.FailsFor message ↔ ∃ fault, convertRecord r = .error fault ∧ fault.message = message := by
  unfold FailsFor convertPolicy
  -- The fault of a policy has the index and the message, and the index is the one it is given.
  simp only [mapError_eq_error_iff, DashClawFault.invalidPolicy.injEq, true_and, forall_const]

end Record

/-- No record that is converted to a rule fails. -/
theorem Record.Yields.not_failsFor {r : Record} {rule : Rule} (yields : r.Yields rule)
    (message : String) : ¬r.FailsFor message := by
  intro fails
  cases (yields 0).symm.trans (fails 0)

/-- A record fails for one reason only. -/
theorem Record.FailsFor.eq {r : Record} {message other : String} (fails : r.FailsFor message)
    (again : r.FailsFor other) : other = message := by
  cases (again 0).symm.trans (fails 0)
  rfl

/-- Every record is converted to a rule or fails. -/
theorem convertPolicy_cases (index : Nat) (r : Record) :
    (∃ rule, r.Yields rule ∧ convertPolicy index r = .ok rule) ∨
    ∃ message, r.FailsFor message ∧
      convertPolicy index r = .error (.invalidPolicy index message) := by
  -- What comes of a record does not depend on its place, which only shows in the fault.
  cases converted : convertRecord r with
  | ok rule =>
    have yields := (r.yields_iff rule).mpr converted
    exact .inl ⟨rule, yields, yields index⟩
  | error fault =>
    have fails := (r.failsFor_iff _).mpr ⟨fault, converted, rfl⟩
    exact .inr ⟨_, fails, fails index⟩

/-- The first record that is on and cannot be converted stands at a place among all records. -/
def FailsFirst (records : List Record) (place : Nat) (message : String) : Prop :=
  ∃ before r after, records = before ++ r :: after ∧ before.length = place ∧
    (∀ earlier ∈ before, ¬earlier.IsOff → ∃ rule, earlier.Yields rule) ∧
    ¬r.IsOff ∧ r.FailsFor message

/-- Without records none fails. -/
theorem not_failsFirst_nil (place : Nat) (message : String) : ¬FailsFirst [] place message := by
  rintro ⟨before, r, after, parts, _⟩
  simp at parts

/-- The first failure is that of the first record, or it comes after that one. -/
theorem failsFirst_cons (r : Record) (rest : List Record) (place : Nat) (message : String) :
    FailsFirst (r :: rest) place message ↔
      place = 0 ∧ ¬r.IsOff ∧ r.FailsFor message ∨
      (¬r.IsOff → ∃ rule, r.Yields rule) ∧
        ∃ later, place = later + 1 ∧ FailsFirst rest later message := by
  constructor
  · rintro ⟨before, failing, after, parts, rfl, passed, isOn, fails⟩
    -- Either nothing stands before the record that fails, or the first record does.
    cases before with
    | nil =>
      cases parts
      exact .inl ⟨rfl, isOn, fails⟩
    | cons first before =>
      cases parts
      rw [List.forall_mem_cons] at passed
      exact .inr ⟨passed.1, before.length, rfl, before, failing, after, rfl, rfl, passed.2, isOn,
        fails⟩
  -- The records that are passed before the failure grow by the first one.
  · rintro (⟨rfl, isOn, fails⟩ |
      ⟨first, _, rfl, before, failing, after, rfl, rfl, passed, isOn, fails⟩)
    · exact ⟨[], r, rest, rfl, rfl, by simp, isOn, fails⟩
    · exact ⟨r :: before, failing, after, rfl, rfl, List.forall_mem_cons.mpr ⟨first, passed⟩, isOn,
        fails⟩

/-- A run over records fails at the first of them, or it goes past that one and fails later. -/
theorem convertFrom_cons_eq_error_iff (r : Record) (rest : List Record) (index : Nat)
    (fault : DashClawFault) :
    convertFrom index (r :: rest) = .error fault ↔
      (¬r.IsOff ∧ ∃ message, r.FailsFor message ∧ fault = .invalidPolicy index message) ∨
      (¬r.IsOff → ∃ rule, r.Yields rule) ∧ convertFrom (index + 1) rest = .error fault := by
  rw [convertFrom]
  simp only [r.isInactive_iff]
  -- A record that is off is passed over, and nothing is asked of it.
  by_cases off : r.IsOff
  · simp [off]
  · simp only [off, if_false, not_false_eq_true, true_and, true_imp_iff, bind_eq_error_iff]
    rcases convertPolicy_cases index r with ⟨rule, yields, converted⟩ | ⟨message, fails, failed⟩
    · -- The record is converted, so that the fault is one of the others.
      have passes : ∃ rule, r.Yields rule := ⟨rule, yields⟩
      simp [converted, yields.not_failsFor, passes, pure, Except.pure]
    · -- The record fails, and for its one reason.
      have stuck (rule : Rule) : ¬r.Yields rule := fun yields => yields.not_failsFor message fails
      have only (other : String) : r.FailsFor other ↔ other = message :=
        ⟨fails.eq, fun same => same ▸ fails⟩
      simp [failed, stuck, only, eq_comm]

/-- Of records that are numbered from an index on, the first failure is the one that is reported. -/
theorem convertFrom_eq_error_iff (records : List Record) (index : Nat) (fault : DashClawFault) :
    convertFrom index records = .error fault ↔
      ∃ place message, FailsFirst records place message ∧
        fault = .invalidPolicy (index + place) message := by
  -- The induction is on the records, and the index goes up by one with each of them.
  induction records generalizing index with
  | nil => simp [convertFrom, not_failsFirst_nil]
  | cons r rest ih =>
    rw [convertFrom_cons_eq_error_iff, ih]
    simp only [failsFirst_cons]
    constructor
    · rintro (⟨isOn, message, fails, rfl⟩ | ⟨passed, place, message, first, rfl⟩)
      · exact ⟨0, message, .inl ⟨rfl, isOn, fails⟩, rfl⟩
      · -- The place among all records is one more than the one among the others.
        exact ⟨place + 1, message, .inr ⟨passed, place, rfl, first⟩,
          by rw [Nat.add_right_comm]; rfl⟩
    · rintro ⟨_, message, ⟨rfl, isOn, fails⟩ | ⟨passed, place, rfl, first⟩, rfl⟩
      · exact .inl ⟨isOn, message, fails, rfl⟩
      · exact .inr ⟨passed, place, message, first, by rw [Nat.add_right_comm]; rfl⟩

/-- A conversion fails for the first record that is on and cannot be converted. -/
theorem convertPolicies_eq_error_iff (records : List Record) (project : String)
    (fault : DashClawFault) :
    convertPolicies records project = .error fault ↔
      ∃ place message, FailsFirst records place message ∧ fault = .invalidPolicy place message := by
  simp [convertPolicies, bind_eq_error_iff, convertFrom_eq_error_iff, pure, Except.pure]

/-! ### Records that are off -/

/-- Two lists have the same records in the same places, but for those that are off in both. -/
def SameButOff : List Record → List Record → Prop :=
  List.Forall₂ fun r other => r = other ∨ r.IsOff ∧ other.IsOff

/-- What a record that is off holds does not matter. -/
theorem convertFrom_congr {records others : List Record} (same : SameButOff records others)
    (index : Nat) : convertFrom index others = convertFrom index records := by
  induction same generalizing index with
  | nil => rfl
  | cons first _ ih =>
    rw [convertFrom, convertFrom, ih]
    -- The first records are the same, or both of them are passed over.
    rcases first with rfl | ⟨off, otherOff⟩
    · rfl
    · rw [if_pos ((Record.isInactive_iff _).mpr off),
        if_pos ((Record.isInactive_iff _).mpr otherOff)]

/-- Some record fails if the first one does, or one behind it. -/
theorem exists_failsFirst_cons (r : Record) (rest : List Record) (message : String) :
    (∃ place, FailsFirst (r :: rest) place message) ↔
      ¬r.IsOff ∧ r.FailsFor message ∨
      (¬r.IsOff → ∃ rule, r.Yields rule) ∧ ∃ place, FailsFirst rest place message := by
  simp only [failsFirst_cons]
  constructor
  · rintro ⟨_, ⟨rfl, isOn, fails⟩ | ⟨passed, later, rfl, fails⟩⟩
    · exact .inl ⟨isOn, fails⟩
    · exact .inr ⟨passed, later, fails⟩
  · rintro (⟨isOn, fails⟩ | ⟨passed, later, fails⟩)
    · exact ⟨0, .inl ⟨rfl, isOn, fails⟩⟩
    · exact ⟨later + 1, .inr ⟨passed, later, rfl, fails⟩⟩

/-- Leaving out the records that are off changes at most the place of the first failure. -/
theorem exists_failsFirst_filter (records : List Record) (message : String) :
    (∃ place, FailsFirst (records.filter (¬·.IsOff)) place message) ↔
      ∃ place, FailsFirst records place message := by
  induction records with
  | nil => simp
  | cons r rest ih =>
    -- A record that is off is left out on one side and passed over on the other.
    by_cases off : r.IsOff
    · rw [List.filter_cons_of_neg (by simpa using off), exists_failsFirst_cons, ih]
      simp [off]
    · rw [List.filter_cons_of_pos (by simpa using off), exists_failsFirst_cons,
        exists_failsFirst_cons, ih]

/-- The records that are on are those that are not passed over. -/
theorem filter_isOn (records : List Record) :
    records.filter (¬·.IsOff) = records.filter (!·.isInactive) := by
  refine List.filter_congr fun r _ => ?_
  by_cases off : r.IsOff
  · simp [off, r.isInactive_iff.mpr off]
  · simp [off, r.isInactive_eq_false_iff.mpr off]

/-- The records that are on yield the rules of a document one by one. -/
theorem convertPolicies_eq_ok_iff_yields (records : List Record) (project : String)
    (document : PolicyDocument) :
    convertPolicies records project = .ok document ↔
      ∃ rules, List.Forall₂ Record.Yields (records.filter (¬·.IsOff)) rules ∧
        document = { version := 1, project := some project, policies := rules } := by
  -- That records and rules go together one by one is an equation of lists of results.
  have pairs (on : List Record) (rules : List Rule) :
      List.Forall₂ Record.Yields on rules ↔ on.map convertRecord = rules.map .ok := by
    have same : Record.Yields = fun r rule => convertRecord r = .ok rule := by
      funext r rule
      exact propext (r.yields_iff rule)
    rw [same, ← List.forall₂_eq_eq_eq, List.forall₂_map_left_iff, List.forall₂_map_right_iff]
  simp only [convertPolicies_eq_ok_iff, filter_isOn, pairs]

/-- A document is converted exactly where every record that is on is accepted. -/
theorem exists_document_iff (records : List Record) (project : String) :
    (∃ document, convertPolicies records project = .ok document) ↔
      ∀ r ∈ records, ¬r.IsOff → ∃ rule, r.Yields rule := by
  constructor
  · rintro ⟨document, converted⟩ r member isOn
    obtain ⟨rules, made, -⟩ := (convertPolicies_eq_ok_iff records project document).mp converted
    obtain ⟨rule, -, here⟩ :=
      exists_rule_of_mem made member (r.isInactive_eq_false_iff.mpr isOn)
    exact ⟨rule, (r.yields_iff rule).mpr here⟩
  · intro accepted
    cases converted : convertPolicies records project with
    | ok document => exact ⟨document, rfl⟩
    | error fault =>
      -- What a conversion fails for is a record that is on, and this one would be accepted.
      obtain ⟨_, message, ⟨before, r, after, rfl, -, -, isOn, fails⟩, -⟩ :=
        (convertPolicies_eq_error_iff records project fault).mp converted
      obtain ⟨rule, yields⟩ := accepted r (by simp) isOn
      exact absurd fails (yields.not_failsFor message)

/--
A conversion selects the records that are on.

It succeeds where each of them is accepted, and the policies are theirs, one by one and in their
order. Otherwise it fails for the first of them that is refused, at the place that this one has
among all records. What the others hold does not matter, and leaving them out changes only such
places.
-/
theorem convertPolicies_selects (records : List Record) (project : String) :
    ((∃ document, convertPolicies records project = .ok document) ↔
      ∀ r ∈ records, ¬r.IsOff → ∃ rule, r.Yields rule) ∧
    (∀ document, convertPolicies records project = .ok document ↔
      ∃ rules, List.Forall₂ Record.Yields (records.filter (¬·.IsOff)) rules ∧
        document = { version := 1, project := some project, policies := rules }) ∧
    (∀ fault, convertPolicies records project = .error fault ↔
      ∃ place message, FailsFirst records place message ∧ fault = .invalidPolicy place message) ∧
    (∀ others, SameButOff records others →
      convertPolicies others project = convertPolicies records project) ∧
    (∀ document, convertPolicies (records.filter (¬·.IsOff)) project = .ok document ↔
      convertPolicies records project = .ok document) ∧
    ∀ message,
      (∃ place, convertPolicies (records.filter (¬·.IsOff)) project =
        .error (.invalidPolicy place message)) ↔
      ∃ place, convertPolicies records project = .error (.invalidPolicy place message) := by
  refine ⟨exists_document_iff records project, convertPolicies_eq_ok_iff_yields records project,
    convertPolicies_eq_error_iff records project, fun others same => ?_, fun document => ?_,
    fun message => ?_⟩
  · rw [convertPolicies, convertPolicies, convertFrom_congr same]
  -- Taking out the records that are off a second time takes out nothing.
  · rw [convertPolicies_eq_ok_iff_yields, convertPolicies_eq_ok_iff_yields, List.filter_filter]
    simp only [Bool.and_self]
  · simpa [convertPolicies_eq_error_iff] using exists_failsFirst_filter records message

end ToolPolicy.DashClaw
