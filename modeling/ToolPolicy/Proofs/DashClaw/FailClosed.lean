import ToolPolicy.Proofs.DashClaw.Conversion
import ToolPolicy.Proofs.DashClaw.Verdict
import ToolPolicy.Proofs.Policy.Approval
import ToolPolicy.Proofs.Policy.Decision

/-! Converted rules fail closed: where one applies it denies, and at most an approval lifts that. -/

namespace ToolPolicy

/-! ### Texts among values -/

namespace Node

/-- A text is among values exactly where it is among their texts. -/
theorem mem_texts_iff (items : List Node) (text : String) :
    text ∈ items.filterMap asString? ↔ .string text ∈ items := by
  rw [List.mem_filterMap]
  constructor
  · rintro ⟨item, member, shown⟩
    -- Only a text is shown as a text.
    cases item with
    | string s =>
      cases shown
      exact member
    | _ => cases shown
  · intro member
    exact ⟨_, member, rfl⟩

/-- Equal values are the same text, or none of them is a text. -/
theorem asString?_of_same {a b : Node} (equal : a.same b = true) : a.asString? = b.asString? := by
  -- A text is equal to the same text only, whatever else counts as equal.
  cases a <;> cases b <;> simp_all [same, asString?]

/-- Equal lists of values have the same texts in them. -/
theorem texts_of_sameItems {as bs : List Node} (equal : sameItems as bs = true) :
    as.filterMap asString? = bs.filterMap asString? := by
  -- Equal lists are equally long, so that they are gone through side by side.
  induction as generalizing bs with
  | nil =>
    cases bs with
    | nil => rfl
    | cons b bs => cases equal
  | cons a as ih =>
    cases bs with
    | nil => cases equal
    | cons b bs =>
      rw [sameItems, Bool.and_eq_true] at equal
      rw [List.filterMap_cons, List.filterMap_cons, asString?_of_same equal.1, ih equal.2]

/-- Two values are the same, or they are equal as data. -/
def Equals (a b : Node) : Prop := a = b ∨ a.same b = true ∨ b.same a = true

/-- What equals a list is a list with the same texts in it. -/
theorem Equals.exists_items {items : List Node} {value : Node}
    (equal : (sequence items).Equals value) :
    ∃ others, value = sequence others ∧ ∀ text, .string text ∈ items ↔ .string text ∈ others := by
  obtain ⟨others, rfl, texts⟩ : ∃ others, value = sequence others ∧
      items.filterMap asString? = others.filterMap asString? := by
    -- The equality of data is read in either direction.
    rcases equal with rfl | equal | equal
    · exact ⟨items, rfl, rfl⟩
    · cases value with
      | sequence others =>
        rw [same] at equal
        exact ⟨others, rfl, texts_of_sameItems equal⟩
      | _ => simp [same] at equal
    · cases value with
      | sequence others =>
        rw [same] at equal
        exact ⟨others, rfl, (texts_of_sameItems equal).symm⟩
      | _ => simp [same] at equal
  refine ⟨others, rfl, fun text => ?_⟩
  rw [← mem_texts_iff, ← mem_texts_iff, texts]

end Node

namespace DashClaw

/-! ### The tools of a converted rule -/

/--
A record covers the tools that a text among its action types fits.

Where action types have no meaning for its type, or it has no list of them, it covers all the tools
that a star stands for.
-/
inductive Record.Covers (r : Record) (tool : String) : Prop
  | listed {actions : List Node} {pattern : String}
      (about : r.policyType = "require_approval" ∨ r.policyType = "block_action_type")
      (given : r.Gives "action_types" (.sequence actions)) (member : .string pattern ∈ actions)
      (fits : Glob.Fits pattern tool)
  | anyTool
      (unlisted : r.policyType = "require_approval" ∨ r.policyType = "block_action_type" →
        ∀ actions, ¬r.Gives "action_types" (.sequence actions))
      (fits : Glob.Fits "*" tool)

/-- A converted rule applies to the tools that its record covers. -/
theorem applies_iff_covers {r : Record} {rule : Rule} (converted : convertRecord r = .ok rule)
    (tool : String) : rule.applies tool = true ↔ r.Covers tool := by
  obtain ⟨s, id, actions, read, _, listed, rfl⟩ := (convertRecord_eq_ok_iff r rule).mp converted
  -- The list that counts is the one that the record gives, if its type is about action types.
  have counts (items : List Node) :
      (if isAboutActions r.policyType then actions else none) = some items ↔
        (r.policyType = "require_approval" ∨ r.policyType = "block_action_type") ∧
          r.Gives "action_types" (.sequence items) := by
    rw [Record.gives_iff read, ← actionTypes_eq_some_iff, listed, Except.ok.injEq,
      ← isAboutActions_iff]
    cases isAboutActions r.policyType <;> simp
  rw [Rule.applies_iff]
  dsimp only
  generalize (if isAboutActions r.policyType then actions else none) = counted at counts
  cases counted with
  | none =>
    -- Nothing counts, so that the star is the only pattern.
    constructor
    · rintro ⟨pattern, member, fits⟩
      obtain rfl : pattern = "*" := by simpa using member
      exact .anyTool (fun about items given => nomatch (counts items).mpr ⟨about, given⟩) fits
    · rintro (⟨about, given, _, _⟩ | ⟨_, fits⟩)
      · cases (counts _).mpr ⟨about, given⟩
      · exact ⟨"*", List.mem_cons_self, fits⟩
  | some items =>
    -- A list that counts takes the place of the star.
    obtain ⟨about, given⟩ := (counts items).mp rfl
    constructor
    · rintro ⟨pattern, member, fits⟩
      exact .listed about given member fits
    · rintro (⟨_, again, member, fits⟩ | ⟨unlisted, _⟩)
      · cases (counts _).mpr ⟨about, again⟩
        exact ⟨_, member, fits⟩
      · exact absurd given (unlisted about items)

/-- A converted rule says that it does not apply to a tool that its record does not cover. -/
theorem decide_of_not_covers {r : Record} {rule : Rule} (converted : convertRecord r = .ok rule)
    {input : Node} (uncovered : ¬r.Covers (toolOf input)) :
    rule.decide input = ⟨true, some .notApplicable, some rule.id⟩ := by
  rw [← applies_iff_covers converted, Bool.not_eq_true] at uncovered
  rw [Rule.decide, uncovered]
  rfl

/-- On a tool that its record covers, a converted rule decides as its type says. -/
theorem decide_of_covers {r : Record} {rule : Rule} (converted : convertRecord r = .ok rule)
    {input : Node} (covered : r.Covers (toolOf input)) :
    rule.decide input =
      if asksApproval r.policyType then
        if isApproved input then ⟨true, some .approved, some rule.id⟩
        else ⟨false, some .approvalRequired, some rule.id⟩
      else ⟨false, some .blocked, some rule.id⟩ := by
  obtain ⟨s, _, _, _, _, _, made⟩ := (convertRecord_eq_ok_iff r rule).mp converted
  have body : rule.payload = payload r.policyType s := by rw [made]
  rw [← applies_iff_covers converted] at covered
  -- A rule that applies leaves the decision to its payload, where no setting has a say.
  rw [Rule.decide, covered, verdict_payload body]
  cases asksApproval r.policyType <;> cases isApproved input <;> rfl

/-! ### Records that are alike -/

/-- Two records give equal values under a key, or neither gives one. -/
structure Record.AlikeUnder (key : String) (a b : Record) : Prop where
  forth : ∀ value, a.Gives key value → ∃ other, b.Gives key other ∧ value.Equals other
  back : ∀ value, b.Gives key value → ∃ other, a.Gives key other ∧ value.Equals other

/-- Of two records with the same type and equal action types, one covers what the other does. -/
theorem Record.AlikeUnder.covers {a b : Record} (alike : AlikeUnder "action_types" a b)
    (sameType : b.policyType = a.policyType) {tool : String} (covered : a.Covers tool) :
    b.Covers tool := by
  cases covered with
  | listed about given member fits =>
    obtain ⟨_, held, equal⟩ := alike.forth _ given
    obtain ⟨others, rfl, texts⟩ := equal.exists_items
    exact .listed (sameType ▸ about) held ((texts _).mp member) fits
  | anyTool unlisted fits =>
    refine .anyTool (fun about items given => ?_) fits
    -- A list of one record alone would not be equal to what the other one gives.
    obtain ⟨_, held, equal⟩ := alike.back _ given
    obtain ⟨others, rfl, _⟩ := equal.exists_items
    exact unlisted (sameType ▸ about) others held

/-- Records are alike in either order. -/
theorem Record.AlikeUnder.symm {key : String} {a b : Record} (alike : AlikeUnder key a b) :
    AlikeUnder key b a :=
  ⟨alike.back, alike.forth⟩

/-- Records with the same type and equal action types cover the same tools. -/
theorem Record.AlikeUnder.covers_iff {a b : Record} (alike : AlikeUnder "action_types" a b)
    (sameType : b.policyType = a.policyType) (tool : String) : b.Covers tool ↔ a.Covers tool :=
  ⟨alike.symm.covers sameType.symm, alike.covers sameType⟩

/-! ### Decisions -/

/--
Converted rules fail closed.

A rule does not apply to tools that its record does not cover, and it says so. On all other tools it
asks for an approval if its type does, and else it blocks, so that it never allows without a reason
and has no exceptions. Of the record only its type and its action types count.
-/
theorem convertPolicy_failsClosed {index : Nat} {r : Record} {rule : Rule}
    (converted : convertPolicy index r = .ok rule) :
    (r.policyType = "require_approval" ∨ r.policyType = "webhook_check" → ∀ input,
      rule.decide input = ⟨true, some .notApplicable, some rule.id⟩ ∨
      rule.decide input = ⟨false, some .approvalRequired, some rule.id⟩ ∧ ¬HasApproval input ∨
      rule.decide input = ⟨true, some .approved, some rule.id⟩ ∧ HasApproval input) ∧
    (¬(r.policyType = "require_approval" ∨ r.policyType = "webhook_check") →
      (∀ input,
        rule.decide input = ⟨true, some .notApplicable, some rule.id⟩ ∨
        rule.decide input = ⟨false, some .blocked, some rule.id⟩) ∧
      ∀ a b, toolOf a = toolOf b → rule.decide a = rule.decide b) ∧
    (∀ input,
      ((rule.decide input).reason = some .notApplicable ↔ ¬r.Covers (toolOf input)) ∧
      (rule.decide input).reason ≠ none ∧ (rule.decide input).reason ≠ some .allowlisted) ∧
    ∀ place other twin, convertPolicy place other = .ok twin →
      other.policyType = r.policyType → r.AlikeUnder "action_types" other → ∀ input,
        (twin.decide input).isAllowed = (rule.decide input).isAllowed ∧
        (twin.decide input).reason = (rule.decide input).reason := by
  have made := (convertPolicy_eq_ok_iff index r rule).mp converted
  have asks : asksApproval r.policyType = true ↔
      r.policyType = "require_approval" ∨ r.policyType = "webhook_check" := by
    simp [asksApproval]
  refine ⟨fun approving input => ?_, fun blocking => ?_, fun input => ?_, ?_⟩
  · -- A tool that is covered needs an approval, and it is the approval that decides.
    rw [← isApproved_iff]
    by_cases covers : r.Covers (toolOf input)
    · rw [decide_of_covers made covers, if_pos (asks.mpr approving)]
      cases isApproved input <;> simp
    · exact .inl (decide_of_not_covers made covers)
  · -- Without an approval to ask for, nothing of an input counts but its tool.
    rw [← asks] at blocking
    refine ⟨fun input => ?_, fun a b sameTool => ?_⟩
    · by_cases covers : r.Covers (toolOf input)
      · exact .inr (by rw [decide_of_covers made covers, if_neg blocking])
      · exact .inl (decide_of_not_covers made covers)
    · by_cases covers : r.Covers (toolOf a)
      · rw [decide_of_covers made covers, decide_of_covers made (sameTool ▸ covers),
          if_neg blocking, if_neg blocking]
      · rw [decide_of_not_covers made covers, decide_of_not_covers made (sameTool ▸ covers)]
  -- A decision on a covered tool has one of three reasons, none of which is an exception.
  · by_cases covers : r.Covers (toolOf input)
    · rw [decide_of_covers made covers]
      cases asksApproval r.policyType <;> cases isApproved input <;> simp [covers]
    · rw [decide_of_not_covers made covers]
      simp [covers]
  · intro place other twin again sameType alike input
    have madeAgain := (convertPolicy_eq_ok_iff place other twin).mp again
    -- Both records cover the tool or neither does, and the type decides on the rest.
    have same := alike.covers_iff sameType (toolOf input)
    by_cases covers : r.Covers (toolOf input)
    · rw [decide_of_covers made covers, decide_of_covers madeAgain (same.mpr covers), sameType]
      cases asksApproval r.policyType <;> cases isApproved input <;> exact ⟨rfl, rfl⟩
    · rw [decide_of_not_covers made covers, decide_of_not_covers madeAgain (mt same.mp covers)]
      exact ⟨rfl, rfl⟩

/-- A record whose settings would lift its block if they were taken over into the rule. -/
def liftingRecord : Record where
  id := some (.string "risk")
  name := some "Risky calls"
  policyType := "risk_threshold"
  rules := some (.object [
    ("action_types", .array [.string "file.*"]),
    ("allowlist", .array [.string "file.delete"]),
    ("block", .bool false),
    ("require", .string "approval"),
    ("threshold", .object [("allowlist", .array [.string "file.delete"])])])
  active := none

/-- A record that is off and has the same type and the same action types, but no other settings. -/
def plainRecord : Record where
  id := none
  name := some "Plain"
  policyType := "risk_threshold"
  rules := some (.object [("action_types", .array [.string "file.*"])])
  active := some (.number (.integer 0))

/-- The two records are alike under their action types. -/
theorem liftingRecord_alike : liftingRecord.AlikeUnder "action_types" plainRecord := by
  constructor
  · rintro value ⟨s, read, held⟩
    cases read
    cases held
    exact ⟨_, ⟨_, rfl, rfl⟩, .inl rfl⟩
  · rintro value ⟨s, read, held⟩
    cases read
    cases held
    exact ⟨_, ⟨_, rfl, rfl⟩, .inl rfl⟩

/-- Neither the settings of a record nor an approval of the call lift a block. -/
theorem liftingRecord_blocks :
    ∃ rule twin, convertPolicy 0 liftingRecord = .ok rule ∧ convertPolicy 7 plainRecord = .ok twin ∧
      HasApproval approvedDeletion ∧
      rule.decide approvedDeletion = ⟨false, some .blocked, some rule.id⟩ ∧
      (twin.decide approvedDeletion).isAllowed = false ∧
      (twin.decide approvedDeletion).reason = some .blocked := by
  obtain ⟨rule, converted⟩ : ∃ rule, convertPolicy 0 liftingRecord = .ok rule := ⟨_, rfl⟩
  obtain ⟨twin, again⟩ : ∃ twin, convertPolicy 7 plainRecord = .ok twin := ⟨_, rfl⟩
  obtain ⟨-, blocking, reasons, alike⟩ := convertPolicy_failsClosed converted
  -- Action types have no meaning for the type, so that the record covers every tool.
  have covers : liftingRecord.Covers (toolOf approvedDeletion) :=
    .anyTool (fun about => absurd about (by decide)) ⟨by decide, Glob.spells_star (by decide)⟩
  have blocked : rule.decide approvedDeletion = ⟨false, some .blocked, some rule.id⟩ := by
    rcases (blocking (by decide)).1 approvedDeletion with passed | blocked
    · exact absurd covers ((reasons _).1.mp (by rw [passed]))
    · exact blocked
  -- The other record is alike in its action types, so that it decides the same.
  obtain ⟨allowed, reason⟩ :=
    alike 7 plainRecord twin again rfl liftingRecord_alike approvedDeletion
  rw [blocked] at allowed reason
  exact ⟨rule, twin, converted, again, by decide, blocked, allowed, reason⟩

end DashClaw

end ToolPolicy
