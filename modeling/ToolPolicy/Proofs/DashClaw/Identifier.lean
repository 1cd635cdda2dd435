import ToolPolicy.Proofs.DashClaw.Conversion
import ToolPolicy.Proofs.Double.Rounding
import ToolPolicy.Proofs.Text.Lower
import ToolPolicy.Proofs.Text.Runs

/-! The identifiers of records: the one that a record has, or else its name in lower case with an
underscore for each run of blanks. -/

namespace ToolPolicy

/-- Whether a value counts as given: null, `false`, zero and whatever is empty do not. -/
def Json.Value.Counts : Json.Value → Prop
  | null => False
  | bool b => b = true
  | number n => n.toDouble.isZero = false
  | string s => s ≠ ""
  | array items => items ≠ []
  | object entries => entries ≠ []

/-- A number is as good as missing in a tree exactly if it is zero. -/
theorem Number.isPresent_toNode_iff (n : Number) :
    n.toNode.isPresent = true ↔ n.toDouble.isZero = false := by
  cases n with
  | float x => simp [toNode, toDouble, Node.isPresent]
  | integer n =>
    have zero : (Double.ofInt n).isZero = false ↔ n ≠ 0 := by
      rw [← Bool.not_eq_true, not_iff_not]
      exact Double.isZero_ofInt_iff n
    rw [toNode, toDouble]
    split_ifs with inside
    -- Within sixty-four bits the number is kept as it is.
    · obtain ⟨low, high⟩ := inside
      simp only [minInt, maxInt] at low high
      have kept : (Int64.ofInt n).toInt = n := Int64.toInt_ofInt_of_le (by omega) (by omega)
      rw [zero, Node.isPresent, bne_iff_ne, ne_eq, ← Int64.toInt_inj, kept]
      rfl
    -- Any other number becomes a double, and is zero where the double is.
    · simp [Node.isPresent]

/-- The values that count as given do so in a tree. -/
theorem Json.Value.isPresent_toNode_iff (value : Json.Value) :
    value.toNode.isPresent = true ↔ value.Counts := by
  cases value with
  | null => simp [toNode, Node.isPresent, Counts]
  | bool b => simp [toNode, Node.isPresent, Counts]
  | number n => rw [toNode, Counts, Number.isPresent_toNode_iff]
  | string s => simp [toNode, Node.isPresent, Counts]
  | array items => cases items <;> simp [toNode, itemNodes, Node.isPresent, Counts]
  | object entries =>
    cases entries with
    | nil => simp [toNode, entryNodes, Node.isPresent, Counts]
    | cons entry rest =>
      obtain ⟨key, value⟩ := entry
      simp [toNode, entryNodes, Node.isPresent, Counts]

namespace DashClaw

open Blank (IsRuns)

/-! ### Names -/

/-- What a run of a name becomes. -/
def slugOfRun (run : List Char) : List Char :=
  if run.all Blank.isBlank then ['_'] else run.flatMap Lower.ofChar

/-- After a blank, more blanks are passed over. -/
theorem slug_blanks {blanks : List Char} (blank : ∀ c ∈ blanks, Blank.isBlank c = true)
    (rest : List Char) : slug true (blanks ++ rest) = slug true rest := by
  induction blanks with
  | nil => rfl
  | cons c blanks ih =>
    obtain ⟨first, blank⟩ := List.forall_mem_cons.mp blank
    rw [List.cons_append, slug, if_pos first, if_pos rfl]
    exact ih blank

/-- Other characters are put in lower case. -/
theorem slug_visible {visible : List Char} (unblank : ∀ c ∈ visible, Blank.isBlank c = false)
    (rest : List Char) :
    slug false (visible ++ rest) = visible.flatMap Lower.ofChar ++ slug false rest := by
  induction visible with
  | nil => rfl
  | cons c visible ih =>
    obtain ⟨first, unblank⟩ := List.forall_mem_cons.mp unblank
    rw [List.cons_append, slug, if_neg (by simp [first]), ih unblank, List.flatMap_cons,
      List.append_assoc]

/-- It does not matter whether a blank precedes what does not begin with one. -/
theorem slug_true {cs : List Char} (unblank : ∀ c ∈ cs.head?, Blank.isBlank c = false) :
    slug true cs = slug false cs := by
  cases cs with
  | nil => rfl
  | cons c rest =>
    rw [slug, slug, if_neg (by simp [unblank c rfl]), if_neg (by simp [unblank c rfl])]

/-- A name is put together from what its runs become. -/
theorem slug_of_isRuns {name : List Char} {runs : List (List Char)} (cut : IsRuns name runs) :
    slug false name = runs.flatMap slugOfRun := by
  induction runs generalizing name with
  | nil =>
    rw [← cut.whole]
    rfl
  | cons run rest ih =>
    rw [← cut.whole, List.flatten_cons, List.flatMap_cons, ← ih cut.tail]
    -- A run is not empty, and its first character says what kind of run it is.
    obtain ⟨c, others, rfl⟩ := List.exists_cons_of_ne_nil (cut.filled run List.mem_cons_self)
    have alike : ∀ d ∈ c :: others, Blank.isBlank d = Blank.isBlank c :=
      fun d member => cut.uniform _ List.mem_cons_self d member c List.mem_cons_self
    cases first : Blank.isBlank c with
    | true =>
      -- The next run begins with a character that is no blank.
      have next : ∀ d ∈ rest.flatten.head?, Blank.isBlank d = false := by
        intro d member
        cases rest with
        | nil => cases member
        | cons run rest =>
          have filled := cut.filled run (by simp)
          rw [List.flatten_cons, List.head?_append_of_ne_nil _ filled] at member
          have apart := (List.isChain_cons_cons.mp cut.longest).1 c List.mem_cons_self d
            (List.mem_of_mem_head? member)
          simpa [first] using Ne.symm apart
      have all : (c :: others).all Blank.isBlank = true := by
        rw [List.all_eq_true]
        exact fun d member => (alike d member).trans first
      rw [slugOfRun, if_pos all, List.cons_append, slug, if_pos first, if_neg (by simp),
        slug_blanks (fun d member => (alike d (List.mem_cons_of_mem _ member)).trans first),
        slug_true next]
      rfl
    -- The blanks of a run become one underscore, and any other run is put in lower case.
    | false =>
      have none : ¬(c :: others).all Blank.isBlank = true := by simp [first]
      rw [slugOfRun, if_neg none, slug_visible fun d member => (alike d member).trans first]

/-- What a name becomes has no blanks, and its characters are in lower case. -/
theorem settled_of_mem_slug {afterBlank : Bool} {name : List Char} {c : Char}
    (member : c ∈ slug afterBlank name) :
    Blank.isBlank c = false ∧ Lower.ofChar c = [c] := by
  have underscore : Blank.isBlank '_' = false ∧ Lower.ofChar '_' = ['_'] := ⟨rfl, rfl⟩
  -- Whether a blank came before decides on underscores alone.
  induction name generalizing afterBlank with
  | nil => cases member
  | cons d rest ih =>
    rw [slug] at member
    split_ifs at member with blank after
    · exact ih member
    · rcases List.mem_cons.mp member with rfl | later
      · exact underscore
      · exact ih later
    · rcases List.mem_append.mp member with own | later
      · exact ⟨Lower.isBlank_of_mem_ofChar (by simpa using blank) own,
          Lower.ofChar_of_mem_ofChar own⟩
      · exact ih later

/-- A text without blanks and in lower case is left as it is. -/
theorem slug_of_settled {cs : List Char}
    (settled : ∀ c ∈ cs, Blank.isBlank c = false ∧ Lower.ofChar c = [c]) : slug false cs = cs := by
  induction cs with
  | nil => rfl
  | cons c rest ih =>
    obtain ⟨⟨unblank, own⟩, settled⟩ := List.forall_mem_cons.mp settled
    rw [slug, if_neg (by simp [unblank]), own, ih settled]
    rfl

/-! ### Records -/

/-- A record has an identifier of its own. -/
def Record.HasId (r : Record) : Prop := ∃ value, r.id = some value ∧ value.Counts

/-- An identifier of its own is taken as it is shown. -/
theorem identifier?_of_counts {r : Record} {value : Json.Value} (own : r.id = some value)
    (counts : value.Counts) : identifier? r = some value.toNode.text := by
  have present := (Json.Value.isPresent_toNode_iff value).mpr counts
  rw [identifier?, own, Option.map_some, Option.filter_some, if_pos present]

/-- Without one the name counts, if there is one. -/
theorem identifier?_of_not_hasId {r : Record} (missing : ¬r.HasId) :
    identifier? r =
      (r.name.filter (· != "")).map fun name => String.ofList (slug false name.toList) := by
  have nothing : (r.id.map Json.Value.toNode).filter Node.isPresent = none := by
    rw [Option.filter_eq_none_iff]
    -- A value that counts would be an identifier of the record's own.
    rintro _ found present
    obtain ⟨value, own, rfl⟩ := Option.map_eq_some_iff.mp found
    exact missing ⟨value, own, (Json.Value.isPresent_toNode_iff value).mp present⟩
  rw [identifier?, nothing]

/-- An identifier that is made from a name: each run of blanks has become an underscore, and every
other character has become its lower-case form. It is not empty, has no blanks, and is the
identifier that is made from it as a name. -/
structure IsSlug (name id : String) : Prop where
  cut : ∃ runs, IsRuns name.toList runs
  written : ∀ runs, IsRuns name.toList runs → id.toList = runs.flatMap slugOfRun
  filled : id ≠ ""
  unblank : ∀ c ∈ id.toList, Blank.isBlank c = false
  stable : ∀ r : Record, ¬r.HasId → r.name = some id → identifier? r = some id

/-- Such an identifier is made from every name that is not empty. -/
theorem isSlug_of_ne_empty {name : String} (named : name ≠ "") :
    IsSlug name (String.ofList (slug false name.toList)) := by
  have filled : String.ofList (slug false name.toList) ≠ "" := by
    have characters : name.toList ≠ [] := by simpa using named
    simpa using slug_ne_nil characters
  -- A name that was made into an identifier has no blanks or capitals left to change.
  refine ⟨Blank.exists_isRuns _, fun runs cut => ?_, filled, fun c member => ?_,
    fun r missing again => ?_⟩
  · rw [String.toList_ofList, slug_of_isRuns cut]
  · rw [String.toList_ofList] at member
    exact (settled_of_mem_slug member).1
  · rw [identifier?_of_not_hasId missing, again, Option.filter_some, if_pos (by simpa using filled),
      Option.map_some, String.toList_ofList, slug_of_settled fun c => settled_of_mem_slug]

/-- The identifier of a record is its own one, as it is shown, or else made from its name; only a
record with neither has none. -/
theorem identifier?_exact (r : Record) :
    (∀ value, r.id = some value → value.Counts →
      identifier? r = some value.toNode.text ∧ value.toNode.text ≠ "") ∧
    (¬r.HasId → ∀ name, r.name = some name → name ≠ "" →
      ∃ id, identifier? r = some id ∧ IsSlug name id) ∧
    (identifier? r = none ↔ ¬r.HasId ∧ (r.name = none ∨ r.name = some "")) := by
  refine ⟨fun value own counts => ?_, fun missing name called named => ?_, ?_⟩
  · have present := (Json.Value.isPresent_toNode_iff value).mpr counts
    exact ⟨identifier?_of_counts own counts, Node.text_ne_empty present⟩
  · refine ⟨_, ?_, isSlug_of_ne_empty named⟩
    rw [identifier?_of_not_hasId missing, called, Option.filter_some, if_pos (by simpa using named),
      Option.map_some]
  -- Only a record without an identifier of its own and without a name has none.
  · by_cases has : r.HasId
    · obtain ⟨value, own, counts⟩ := has
      rw [identifier?_of_counts own counts]
      simp [Record.HasId, own, counts]
    · rw [identifier?_of_not_hasId has, Option.map_eq_none_iff, Option.filter_eq_none_iff]
      simp only [has, not_false_eq_true, true_and]
      cases r.name <;> simp

/-- A record whose identifier is empty, with blanks all over its name. -/
def spacedRecord : Record where
  id := some (.string "")
  name := some "  Block\tAll  \u0130nputs "
  policyType := "block_action_type"
  rules := none
  active := none

/-- Each run of blanks becomes one underscore, also at the ends, and the dotted capital becomes two
characters. -/
theorem spacedRecord_identified :
    identifier? spacedRecord = some "_block_all_i\u0307nputs_" ∧
      IsSlug "  Block\tAll  \u0130nputs " "_block_all_i\u0307nputs_" := by
  have identified : identifier? spacedRecord = some "_block_all_i\u0307nputs_" := by
    decide +kernel
  have missing : ¬spacedRecord.HasId := by
    rintro ⟨value, own, counts⟩
    cases own
    exact counts rfl
  obtain ⟨id, found, made⟩ := (identifier?_exact spacedRecord).2.1 missing _ rfl (by decide)
  cases found.symm.trans identified
  exact ⟨identified, made⟩

end DashClaw

end ToolPolicy
