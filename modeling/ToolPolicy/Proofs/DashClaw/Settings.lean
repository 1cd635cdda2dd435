import ToolPolicy.Proofs.DashClaw.Conversion

/-! Settings may be given as a value or as the JSON text of one: a conversion reads them key by key,
and it cannot tell the two apart. -/

namespace ToolPolicy.DashClaw

/-- Two trees hold the same under every key, whether they are mappings or not. -/
def HoldSame (s t : Node) : Prop := ∀ key, s.get? key = t.get? key

/-- Null holds as little as a mapping without entries. -/
theorem holdSame_null : HoldSame (.mapping []) .null := fun _ => rfl

section

variable {s t : Node} (same : HoldSame s t)

include same

/-- The action types are read from what is held under their key. -/
theorem HoldSame.actionTypes : actionTypes s = actionTypes t := by
  rw [DashClaw.actionTypes, DashClaw.actionTypes, same]

/-- What counts as present under a key depends on what is held under it. -/
theorem HoldSame.getPresent? (key : String) : s.getPresent? key = t.getPresent? key := by
  rw [Node.getPresent?, Node.getPresent?, same]

/-- A setting or its default depends on what is held under its key. -/
theorem HoldSame.settingOr (key : String) (default : Node) :
    settingOr s key default = settingOr t key default := by
  rw [DashClaw.settingOr, DashClaw.settingOr, same.getPresent?]

/-- The rule for a type of records depends on what is held under the keys of its settings. -/
theorem HoldSame.payload (policyType : String) : payload policyType s = payload policyType t := by
  simp only [DashClaw.payload, same.settingOr, same.getPresent?]

end

/-- Records that differ in settings only are converted alike where these hold the same. -/
theorem HoldSame.convertRecord {s t : Node} (same : HoldSame s t) {r : Record}
    {here there : Option Json.Value} (read : settings { r with rules := here } = .ok s)
    (readThere : settings { r with rules := there } = .ok t) :
    convertRecord { r with rules := here } = convertRecord { r with rules := there } := by
  -- The settings of a record have no part in its identifier.
  have identified : identifier? { r with rules := here } = identifier? { r with rules := there } :=
    rfl
  rw [DashClaw.convertRecord, DashClaw.convertRecord, read, readThere, identified]
  simp only [bind, Except.bind, same.actionTypes, same.payload, same "tests"]

/-- Settings that are given as a value other than a text hold what the value holds. -/
theorem settings_value (r : Record) {value : Json.Value} (noText : ∀ s, value ≠ .string s) :
    ∃ s, settings { r with rules := some value } = .ok s ∧
      settings { r with rules := value.notNull } = .ok s ∧ HoldSame s value.toNode := by
  cases value with
  -- Null is read as settings without entries, which hold nothing under any key.
  | null => exact ⟨_, rfl, rfl, holdSame_null⟩
  | string s => exact absurd rfl (noText s)
  | bool | number | array | object => exact ⟨_, rfl, rfl, fun _ => rfl⟩

/-- Settings that are given as a JSON text are the value of the text. -/
theorem settings_text (r : Record) {text : String} {value : Json.Value}
    (parsed : Json.parse text = .ok value) :
    settings { r with rules := some (.string text) } = .ok value.toNode := by
  simp only [settings, parsed]

/-- Settings that are given as a text but are not JSON make the conversion fail at once. -/
theorem convertRecord_noJson (r : Record) {text : String} {e : Json.Error}
    (failed : Json.parse text = .error e) :
    convertRecord { r with rules := some (.string text) } = .error (.rulesNotJson e) := by
  have unread : settings { r with rules := some (.string text) } = .error (.rulesNotJson e) := by
    simp only [settings, failed]
  rw [convertRecord, unread]
  rfl

/--
Settings are converted alike, or refused with the same message, whether they are given as a value
or as the JSON text of that value; an absent value is as good as null. A text that is not JSON is
refused whatever else the record holds.
-/
theorem convertPolicy_textSettings (index : Nat) (r : Record) (text : String) :
    (∀ value, Json.parse text = .ok value → (∀ s, value ≠ .string s) →
      convertPolicy index { r with rules := some value } =
          convertPolicy index { r with rules := some (.string text) } ∧
        convertPolicy index { r with rules := value.notNull } =
          convertPolicy index { r with rules := some (.string text) }) ∧
      ∀ e, Json.parse text = .error e →
        convertPolicy index { r with rules := some (.string text) } =
          .error (.invalidPolicy index ("rules is not valid JSON: " ++ e.message)) := by
  constructor
  · intro value parsed noText
    obtain ⟨s, read, readAbsent, same⟩ := settings_value r noText
    have readText := settings_text r parsed
    rw [convertPolicy, convertPolicy, convertPolicy]
    -- All three conversions are compared with the one of the text.
    rw [same.convertRecord read readText, same.convertRecord readAbsent readText]
    exact ⟨rfl, rfl⟩
  · intro e failed
    rw [convertPolicy, convertRecord_noJson r failed]
    rfl

/-- A rate limit with the settings null, in each of the ways to give them, and with no JSON. -/
theorem convertPolicy_textSettings_null :
    let r : Record := ⟨none, some "Slow Down", "rate_limit", none, none⟩
    convertPolicy 2 r = convertPolicy 2 { r with rules := some (.string "null") } ∧
      convertPolicy 2 { r with rules := some .null } =
        convertPolicy 2 { r with rules := some (.string "null") } ∧
      convertPolicy 2 { r with rules := some (.string "") } = .error (.invalidPolicy 2
        "rules is not valid JSON: EOF while parsing a value at line 1 column 0") := by
  intro r
  obtain ⟨alike, absent⟩ := (convertPolicy_textSettings 2 r "null").1 .null rfl (by simp)
  have refused := (convertPolicy_textSettings 2 r "").2 ⟨.endInValue, 1, 0⟩ rfl
  have message : "rules is not valid JSON: " ++ Json.Error.message ⟨.endInValue, 1, 0⟩ =
      "rules is not valid JSON: EOF while parsing a value at line 1 column 0" := by decide +kernel
  exact ⟨absent, alike, message ▸ refused⟩

end ToolPolicy.DashClaw
