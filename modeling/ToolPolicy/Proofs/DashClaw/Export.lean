import Mathlib
import ToolPolicy.DashClaw.Export
import ToolPolicy.Proofs.Except

/-! Which texts are exports, and the records that they yield: the elements of a list, each of them
an object or else the list of the fields of a record. -/

namespace ToolPolicy.DashClaw

/-- The names of the fields of a record, in their order. -/
def fieldNames : List String := ["id", "name", "policy_type", "rules", "active"]

/-- A record has the values of its fields; null counts as absent, but not for the type. -/
structure Record.Describes (r : Record) (field : String → Option Json.Value) : Prop where
  id : ∀ value, r.id = some value ↔ field "id" = some value ∧ value ≠ .null
  name : ∀ text, r.name = some text ↔ field "name" = some (.string text)
  unnamed : r.name = none → field "name" = none ∨ field "name" = some .null
  policyType : field "policy_type" = some (.string r.policyType) ∨
    field "policy_type" = none ∧ r.policyType = ""
  rules : ∀ value, r.rules = some value ↔ field "rules" = some value ∧ value ≠ .null
  active : ∀ value, r.active = some value ↔ field "active" = some value ∧ value ≠ .null

/-- Values are those of the fields of a record: the name is a text or null, and the type is a
text, unless they are absent. -/
structure AreFields (field : String → Option Json.Value) : Prop where
  name : ∀ value, field "name" = some value → value = .null ∨ ∃ text, value = .string text
  policyType : ∀ value, field "policy_type" = some value → ∃ text, value = .string text

/-- The values under the names of the fields in the entries of an object. -/
def namedFields (entries : List (String × Json.Value)) (name : String) : Option Json.Value :=
  entries.lookup name

/-- The values at the places of the fields in a list. -/
def placedFields (items : List Json.Value) (name : String) : Option Json.Value :=
  items[fieldNames.idxOf name]?

/-- An element stands for a record: by names, or by places where there are no more than fields. -/
inductive StandsFor : Json.Value → Record → Prop
  | named {entries : List (String × Json.Value)} {r : Record}
      (fields : r.Describes (namedFields entries)) : StandsFor (.object entries) r
  | placed {items : List Json.Value} {r : Record} (short : items.length ≤ fieldNames.length)
      (fields : r.Describes (placedFields items)) : StandsFor (.array items) r

/-- An element is an object with the fields of a record. -/
def IsRecordObject (element : Json.Value) : Prop :=
  ∃ entries, element = .object entries ∧ AreFields (namedFields entries)

/-- An element is a list of the fields of a record. -/
def IsFieldList (element : Json.Value) : Prop :=
  ∃ items, element = .array items ∧ items.length ≤ fieldNames.length ∧
    AreFields (placedFields items)

/-- A text holds a list of elements, bare or under a key of an object. -/
inductive Lists (text : String) (elements : List Json.Value) : Prop
  | bare (parsed : Json.parse text = .ok (.array elements))
  | wrapped {entries : List (String × Json.Value)}
      (parsed : Json.parse text = .ok (.object entries))
      (found : entries.lookup "policies" = some (.array elements))

/-! ### Fields -/

/-- A value that may be absent counts where it is not null. -/
theorem bind_notNull_eq_some_iff (field : Option Json.Value) (value : Json.Value) :
    field.bind Json.Value.notNull = some value ↔ field = some value ∧ value ≠ .null := by
  cases field with
  | none => simp
  | some found => cases found <;> simp +contextual [Json.Value.notNull, eq_comm]

/-- A name is read where it is a text, null or absent. -/
theorem optionalText_eq_ok_iff (field : Option Json.Value) (name : Option String) :
    Record.optionalText field = .ok name ↔
      (∀ text, name = some text ↔ field = some (.string text)) ∧
        (name = none → field = none ∨ field = some .null) := by
  cases field with
  | none => cases name <;> simp [Record.optionalText]
  | some found => cases found <;> cases name <;> simp [Record.optionalText, eq_comm]

/-- A type is read where it is a text or absent. -/
theorem textOrEmpty_eq_ok_iff (field : Option Json.Value) (text : String) :
    Record.textOrEmpty field = .ok text ↔
      field = some (.string text) ∨ field = none ∧ text = "" := by
  cases field with
  | none => simp [Record.textOrEmpty, eq_comm]
  | some found => cases found <;> simp [Record.textOrEmpty]

/-- A record is read from the values that it has. -/
theorem ofFields_eq_ok_iff (field : String → Option Json.Value) (r : Record) :
    Record.ofFields (field "id") (field "name") (field "policy_type") (field "rules")
      (field "active") = .ok r ↔ r.Describes field := by
  unfold Record.ofFields
  simp only [bind_eq_ok_iff, optionalText_eq_ok_iff, textOrEmpty_eq_ok_iff]
  constructor
  -- What was read for each field says what the field holds.
  · rintro ⟨name, ⟨named, unnamed⟩, policyType, typed, same⟩
    cases same
    exact ⟨bind_notNull_eq_some_iff _, named, unnamed, typed, bind_notNull_eq_some_iff _,
      bind_notNull_eq_some_iff _⟩
  · intro fields
    refine ⟨r.name, ⟨fields.name, fields.unnamed⟩, r.policyType, fields.policyType, ?_⟩
    obtain ⟨id, name, policyType, rules, active⟩ := r
    -- A field counts as absent where it is null, so that equal conditions make equal fields.
    have sameId := Option.ext fun value =>
      (bind_notNull_eq_some_iff (field "id") value).trans (fields.id value).symm
    have sameRules := Option.ext fun value =>
      (bind_notNull_eq_some_iff (field "rules") value).trans (fields.rules value).symm
    have sameActive := Option.ext fun value =>
      (bind_notNull_eq_some_iff (field "active") value).trans (fields.active value).symm
    rw [sameId, sameRules, sameActive]
    rfl

/-- Values are those of some record exactly where they are those of the fields of one. -/
theorem exists_describes_iff (field : String → Option Json.Value) :
    (∃ r : Record, r.Describes field) ↔ AreFields field := by
  constructor
  · rintro ⟨r, fields⟩
    refine ⟨fun value found => ?_, fun value found => ?_⟩
    -- A record without a name had none, or null for one.
    · cases named : r.name with
      | none =>
        rcases fields.unnamed named with absent | null
        · rw [absent] at found
          cases found
        · exact .inl (Option.some.inj (found.symm.trans null))
      | some text =>
        exact .inr ⟨text, Option.some.inj (found.symm.trans ((fields.name text).mp named))⟩
    -- A type that was given is the text of the record.
    · rcases fields.policyType with typed | ⟨absent, _⟩
      · exact ⟨_, Option.some.inj (found.symm.trans typed)⟩
      · rw [absent] at found
        cases found
  · intro fields
    simp only [← ofFields_eq_ok_iff, Record.ofFields, bind_eq_ok_iff]
    -- Only the name and the type can keep a record from being read.
    obtain ⟨name, named⟩ : ∃ name, Record.optionalText (field "name") = .ok name := by
      cases found : field "name" with
      | none => exact ⟨_, rfl⟩
      | some value =>
        obtain rfl | ⟨text, rfl⟩ := fields.name value found
        · exact ⟨_, rfl⟩
        · exact ⟨_, rfl⟩
    obtain ⟨policyType, typed⟩ : ∃ text, Record.textOrEmpty (field "policy_type") = .ok text := by
      cases found : field "policy_type" with
      | none => exact ⟨_, rfl⟩
      | some value =>
        obtain ⟨text, rfl⟩ := fields.policyType value found
        exact ⟨_, rfl⟩
    exact ⟨_, name, named, policyType, typed, rfl⟩

/-! ### Elements -/

/-- A record is read from the elements that stand for it. -/
theorem ofValue_eq_ok_iff (element : Json.Value) (r : Record) :
    Record.ofValue element = .ok r ↔ StandsFor element r := by
  cases element with
  | object entries =>
    refine Iff.trans (ofFields_eq_ok_iff (namedFields entries) r) ⟨.named, fun stands => ?_⟩
    cases stands with
    | named fields => exact fields
  -- A list has its fields at fixed places, and it may not be longer.
  | array items =>
    have placed (r : Record) : Record.ofFields items[0]? items[1]? items[2]? items[3]? items[4]? =
        .ok r ↔ r.Describes (placedFields items) := ofFields_eq_ok_iff (placedFields items) r
    unfold Record.ofValue
    rw [bind_eq_ok_iff]
    constructor
    · rintro ⟨read, filled, rest⟩
      split at rest
      · cases rest
      · rename_i short
        cases rest
        exact .placed (Nat.le_of_not_lt short) ((placed _).mp filled)
    · intro stands
      cases stands with
      | placed short fields =>
        exact ⟨r, (placed r).mpr fields, if_neg (Nat.not_lt.mpr short)⟩
  -- Nothing else stands for a record.
  | null | bool | number | string =>
    constructor
    · intro read
      cases read
    · intro stands
      cases stands

/-- An element stands for some record exactly where it holds the fields of one. -/
theorem exists_standsFor_iff (element : Json.Value) :
    (∃ r, StandsFor element r) ↔ IsRecordObject element ∨ IsFieldList element := by
  constructor
  · rintro ⟨r, stands⟩
    cases stands with
    | named fields => exact .inl ⟨_, rfl, (exists_describes_iff _).mp ⟨r, fields⟩⟩
    | placed short fields => exact .inr ⟨_, rfl, short, (exists_describes_iff _).mp ⟨r, fields⟩⟩
  -- The fields of either form describe a record, which the form then stands for.
  · rintro (⟨entries, rfl, fields⟩ | ⟨items, rfl, short, fields⟩)
    · obtain ⟨r, describes⟩ := (exists_describes_iff _).mpr fields
      exact ⟨r, .named describes⟩
    · obtain ⟨r, describes⟩ := (exists_describes_iff _).mpr fields
      exact ⟨r, .placed short describes⟩

/-- Something stands for each element exactly where something stands for all of them in turn. -/
theorem exists_forall₂_iff {α β : Type} {R : α → β → Prop} (items : List α) :
    (∃ results, List.Forall₂ R items results) ↔ ∀ a ∈ items, ∃ b, R a b := by
  -- The result for the first element is put before those for the others.
  induction items with
  | nil => simp
  | cons a rest ih =>
    rw [List.forall_mem_cons, ← ih]
    constructor
    · rintro ⟨_, _ | ⟨first, others⟩⟩
      exact ⟨⟨_, first⟩, _, others⟩
    · rintro ⟨⟨b, first⟩, results, others⟩
      exact ⟨b :: results, .cons first others⟩

/-- Whatever stands for something in turn stands for one of the elements. -/
theorem exists_of_mem_forall₂ {α β : Type} {R : α → β → Prop} {items : List α} {results : List β}
    (stand : List.Forall₂ R items results) {b : β} (member : b ∈ results) : ∃ a ∈ items, R a b := by
  induction stand with
  | nil => cases member
  | cons first others ih =>
    rcases List.mem_cons.mp member with rfl | later
    · exact ⟨_, List.mem_cons_self, first⟩
    · obtain ⟨a, among, stands⟩ := ih later
      exact ⟨a, List.mem_cons_of_mem _ among, stands⟩

/-! ### Texts -/

/-- The elements of a text are found where it holds a list of them. -/
theorem lists_iff (text : String) (elements : List Json.Value) :
    Lists text elements ↔
      ∃ value, Json.parse text = .ok value ∧ recordValues value = .ok elements := by
  constructor
  · rintro (parsed | ⟨parsed, found⟩)
    · exact ⟨_, parsed, rfl⟩
    · exact ⟨_, parsed, by rw [recordValues, found]⟩
  -- Only a list and an object with a list under the key yield elements.
  · rintro ⟨value, parsed, listed⟩
    unfold recordValues at listed
    split at listed
    · cases listed
      exact .bare parsed
    · split at listed
      · next found =>
        cases listed
        exact .wrapped parsed found
      · cases listed
    · cases listed

/-- An export yields the records that its elements stand for, in their order. -/
theorem parseExport_eq_ok_iff (text : String) (records : List Record) :
    parseExport text = .ok records ↔
      ∃ elements, Lists text elements ∧ List.Forall₂ StandsFor elements records := by
  simp only [parseExport, readExport, mapError_eq_ok_iff, bind_eq_ok_iff, mapM_eq_ok_iff,
    ofValue_eq_ok_iff, lists_iff]
  constructor
  · rintro ⟨value, parsed, elements, listed, stand⟩
    exact ⟨elements, ⟨value, parsed, listed⟩, stand⟩
  · rintro ⟨elements, ⟨value, parsed, listed⟩, stand⟩
    exact ⟨value, parsed, elements, listed, stand⟩

/-- Whatever is no export is refused as such. -/
theorem parseExport_refused {text : String} (refused : ¬∃ records, parseExport text = .ok records) :
    ∃ message, parseExport text = .error (.invalidExport message) := by
  unfold parseExport at refused ⊢
  cases read : readExport text with
  | ok records => exact absurd ⟨records, by rw [read]; rfl⟩ refused
  | error fault => exact ⟨fault.message, rfl⟩

/--
An export is a JSON text with a list of elements, each of which stands for a record: an object, or
else a list that has its fields in their order. All other texts are refused.

Where no element is itself a list, the texts that are accepted are those whose elements are all
objects with the fields of a record.
-/
theorem parseExport_exact (text : String) :
    (∀ records, parseExport text = .ok records ↔
      ∃ elements, Lists text elements ∧ List.Forall₂ StandsFor elements records) ∧
    ((∃ records, parseExport text = .ok records) ↔
      ∃ elements, Lists text elements ∧
        ∀ element ∈ elements, IsRecordObject element ∨ IsFieldList element) ∧
    ((∀ elements, Lists text elements → ∀ items, .array items ∉ elements) →
      ((∃ records, parseExport text = .ok records) ↔
        ∃ elements, Lists text elements ∧ ∀ element ∈ elements, IsRecordObject element)) ∧
    ((¬∃ records, parseExport text = .ok records) →
      ∃ message, parseExport text = .error (.invalidExport message)) := by
  have accepted : (∃ records, parseExport text = .ok records) ↔
      ∃ elements, Lists text elements ∧
        ∀ element ∈ elements, IsRecordObject element ∨ IsFieldList element := by
    -- Records exist for all elements where one exists for each of them.
    simp only [parseExport_eq_ok_iff, ← exists_standsFor_iff, ← exists_forall₂_iff]
    exact exists_comm.trans (by simp only [exists_and_left])
  refine ⟨parseExport_eq_ok_iff text, accepted, fun flat => ?_, parseExport_refused⟩
  rw [accepted]
  refine exists_congr fun elements => and_congr_right fun listed => forall₂_congr ?_
  intro element member
  -- A list of fields would be a list among the elements.
  refine or_iff_left ?_
  rintro ⟨items, rfl, _⟩
  exact flat elements listed items member

/-- A text holds at most one list of elements. -/
theorem Lists.eq {text : String} {elements others : List Json.Value} (here : Lists text elements)
    (there : Lists text others) : elements = others := by
  rw [lists_iff] at here there
  obtain ⟨value, parsed, listed⟩ := here
  obtain ⟨_, again, listedToo⟩ := there
  cases parsed.symm.trans again
  exact Except.ok.inj (listed.symm.trans listedToo)

/-- An export with an object whose type is null. -/
def nullTypeExport : String := "\x7b\"policies\":[\x7b\"id\":1,\"policy_type\":null\x7d]\x7d"

/-- The export with a type that is null holds no list among its elements, and is refused. -/
theorem nullTypeExport_refused :
    (∀ elements, Lists nullTypeExport elements → ∀ items, .array items ∉ elements) ∧
      (¬∃ records, parseExport nullTypeExport = .ok records) ∧
      ∃ message, parseExport nullTypeExport = .error (.invalidExport message) := by
  have parsed : Json.parse nullTypeExport = .ok (.object [("policies", .array
      [.object [("id", .number (.integer 1)), ("policy_type", .null)]])]) := by cbv
  have listed := Lists.wrapped parsed rfl
  -- The one element of the list is an object, so that the exact statement applies.
  have flat : ∀ elements, Lists nullTypeExport elements → ∀ items, .array items ∉ elements := by
    intro elements found items
    rw [found.eq listed]
    simp
  obtain ⟨_, _, objects, refusals⟩ := parseExport_exact nullTypeExport
  have refused : ¬∃ records, parseExport nullTypeExport = .ok records := by
    rw [objects flat]
    rintro ⟨elements, found, all⟩
    rw [found.eq listed] at all
    obtain ⟨_, same, fields⟩ := all _ List.mem_cons_self
    cases same
    -- Null is no text.
    obtain ⟨_, text⟩ := fields.policyType .null rfl
    cases text
  exact ⟨flat, refused, refusals refused⟩

/-- An export whose one element is a list. -/
def listExport : String := "[[7]]"

/-- A list of fields is taken for a record, though it is no object. -/
theorem listExport_accepted :
    parseExport listExport =
      .ok [{ id := some (.number (.integer 7)), name := none, policyType := "", rules := none,
             active := none }] ∧
      ¬∃ elements, Lists listExport elements ∧ ∀ element ∈ elements, IsRecordObject element := by
  have parsed : Json.parse listExport = .ok (.array [.array [.number (.integer 7)]]) := by cbv
  refine ⟨by cbv, ?_⟩
  -- The one element of the text is a list and no object.
  rintro ⟨elements, found, all⟩
  rw [found.eq (.bare parsed)] at all
  obtain ⟨_, same, _⟩ := all _ List.mem_cons_self
  cases same

end ToolPolicy.DashClaw
