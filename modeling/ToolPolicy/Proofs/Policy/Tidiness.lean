import Mathlib.Data.Finset.Card
import ToolPolicy.Proofs.Policy.Repetition
import ToolPolicy.Proofs.Policy.View

/-! What the warnings about an accepted document are about, and how many there are. -/

namespace ToolPolicy

/-- The keys of a mapping; other values have none. -/
def Node.keys (n : Node) : List String := (n.entries?.map Entries.keys).getD []

/-- A search for unknown keys warns about each of them once, in their order. -/
theorem unknownKeyWarnings_eq (parent : String) (known : List String) (value : Node) :
    unknownKeyWarnings parent known value =
      (value.keys.filter (· ∉ known)).map (unknownKeyWarning parent known) := by
  have alike : (fun key => !known.contains key) = fun key => decide (key ∉ known) := by
    funext key
    simp
  -- Only a mapping has keys, and in nothing else is anything searched.
  cases value with
  | mapping entries =>
    rw [unknownKeyWarnings, alike]
    rfl
  | _ => rfl

/-- The warnings about the keys of policies that are numbered from an index on. -/
def keyWarningsFrom (index : Nat) (policies : List Node) : List Issue :=
  (policies.zipIdx index).flatMap fun (policy, i) => bodyWarnings i policy

/-- The warnings about the keys of policies are those of the first and then those of the rest. -/
theorem keyWarningsFrom_cons (index : Nat) (policy : Node) (rest : List Node) :
    keyWarningsFrom index (policy :: rest) =
      bodyWarnings index policy ++ keyWarningsFrom (index + 1) rest := by
  rw [keyWarningsFrom, List.zipIdx_cons, List.flatMap_cons]
  rfl

/-- What a policy applies to, as it stands in the tree. -/
def Node.scope (policy : Node) : Node := (policy.get? "applies_to").getD .null

/-- The warnings about an accepted policy are about its keys and about those of its scope. -/
theorem IsPolicy.bodyWarnings_eq {policy : Node} (shaped : IsPolicy policy) (index : Nat) :
    bodyWarnings index policy =
      (policy.keys.filter (· ∉ policyKeys)).map (unknownKeyWarning (policyPath index) policyKeys) ++
      (policy.scope.keys.filter (· ∉ scopeKeys)).map
        (unknownKeyWarning (policyPath index ++ ".applies_to") scopeKeys) := by
  obtain ⟨entries, tool, rest, applied, named⟩ := shaped.namesTools
  -- A scope that names tools is no empty mapping, so that it is not passed over.
  have present : scope? policy = some policy.scope := by
    cases entries with
    | nil => cases named
    | cons entry others => simp [scope?, Node.scope, Node.getPresent?, applied, Node.isPresent]
  rw [bodyWarnings, present]
  dsimp only
  -- The keys of the policy are searched before those of its scope.
  rw [unknownKeyWarnings_eq, unknownKeyWarnings_eq]

/-- No warning about a key is about an identifier. -/
theorem isRepetition_of_mem_bodyWarnings {index : Nat} {policy : Node} {issue : Issue}
    (member : issue ∈ bodyWarnings index policy) : issue.isRepetition = false := by
  have none := filter_bodyWarnings index policy
  rw [List.filter_eq_nil_iff] at none
  simpa using none issue member

/-- Leaving out what is about identifiers leaves the warnings about keys. -/
theorem filter_not_warningsFrom {policies : List Node}
    (shaped : ∀ policy ∈ policies, IsPolicy policy) (seen : SeenIds) (index : Nat) :
    (warningsFrom seen index policies).filter (!·.isRepetition) =
      keyWarningsFrom index policies := by
  -- The identifiers that are known differ from policy to policy, but they make no difference here.
  induction policies generalizing seen index with
  | nil => rfl
  | cons policy rest ih =>
    rw [List.forall_mem_cons] at shaped
    have keys : (bodyWarnings index policy).filter (!·.isRepetition) =
        bodyWarnings index policy := by
      rw [List.filter_eq_self]
      intro issue member
      simp [isRepetition_of_mem_bodyWarnings member]
    rw [warningsFrom, List.filter_append, ih shaped.2, keyWarningsFrom_cons, policyWarnings,
      shaped.1.idText?_eq]
    dsimp only
    rw [List.filter_append, keys]
    -- In front of the keys there is at most one warning, which is about the identifier.
    cases seen.lookup (Rule.ofNode policy).id with
    | none => rfl
    | some first => simp [isRepetition_duplicateIdWarning]

/-- The identifiers of policies, as they are displayed. -/
def policyIds (policies : List Node) : List String :=
  policies.map fun policy => (Rule.ofNode policy).id

/-- Up to their order, the warnings are about the keys at the top, about the keys of policies and
scopes, and about identifiers that come again. -/
theorem documentWarnings_perm {doc : Node} {policies : List Node}
    (listed : doc.get? "policies" = some (.sequence policies))
    (shaped : ∀ policy ∈ policies, IsPolicy policy) :
    (documentWarnings doc).Perm
      ((doc.keys.filter (· ∉ documentKeys)).map (unknownKeyWarning "" documentKeys) ++
        (repeatedFrom [] (policyIds policies) ++ keyWarningsFrom 0 policies)) := by
  have identified : policies.map idText? = (policyIds policies).map some := by
    rw [policyIds, List.map_map]
    exact List.map_congr_left fun policy member => (shaped policy member).idText?_eq
  have repetitions := filter_warningsFrom_identified identified
  -- What is about identifiers and what is about keys make up all that is said of the policies.
  have parts := List.filter_append_perm Issue.isRepetition (warningsFrom [] 0 policies)
  rw [repetitions, filter_not_warningsFrom shaped] at parts
  rw [documentWarnings, unknownKeyWarnings_eq, listed]
  exact parts.symm.append_left _

/-! ### How many warnings there are -/

/-- The number of the keys of a value that are not known. -/
def unknownCount (known : List String) (value : Node) : Nat := value.keys.countP (· ∉ known)

/-- The number of the keys of a policy and of its scope that are not known. -/
def policyUnknownCount (policy : Node) : Nat :=
  unknownCount ["id", "description", "rule", "applies_to", "tests"] policy +
    unknownCount ["tools"] policy.scope

/-- Each key of a policy or a scope that is not known is warned about once. -/
theorem length_keyWarningsFrom {policies : List Node}
    (shaped : ∀ policy ∈ policies, IsPolicy policy) (index : Nat) :
    (keyWarningsFrom index policies).length = (policies.map policyUnknownCount).sum := by
  -- Policy by policy the numbers are added up as the lists are put together.
  induction policies generalizing index with
  | nil => rfl
  | cons policy rest ih =>
    rw [List.forall_mem_cons] at shaped
    -- The warnings about one policy are as many as its unknown keys, and those of the rest follow.
    rw [keyWarningsFrom_cons, List.length_append, ih shaped.2, shaped.1.bodyWarnings_eq,
      List.map_cons, List.sum_cons, List.length_append, List.length_map, List.length_map,
      policyUnknownCount, unknownCount, unknownCount, List.countP_eq_length_filter,
      List.countP_eq_length_filter]
    rfl

/-- Of identifiers as many come again as there are more identifiers than different ones. -/
theorem length_repeatedFrom (before ids : List String) :
    (repeatedFrom before ids).length + (before ++ ids).dedup.length =
      before.dedup.length + ids.length := by
  -- The induction is on the identifiers to come, while those that came before grow by each of them.
  induction ids generalizing before with
  | nil => simp [repeatedFrom]
  | cons id rest ih =>
    have later := ih (before ++ [id])
    rw [List.append_assoc, List.singleton_append] at later
    -- An identifier that comes again is counted here, and a new one makes for one more.
    have here : (before ++ [id]).dedup.length =
        if id ∈ before then before.dedup.length else before.dedup.length + 1 := by
      rw [← List.card_toFinset, ← List.card_toFinset]
      simp [Finset.card_insert_eq_ite]
    rw [repeatedFrom, List.length_append, List.length_cons]
    -- Either the identifier adds a warning, or it adds to the different ones.
    by_cases again : id ∈ before
    · rw [if_pos again] at here ⊢
      rw [List.length_singleton]
      omega
    · rw [if_neg again] at here ⊢
      rw [List.length_nil]
      omega

/-- No identifier comes again exactly where all of them are different. -/
theorem repeatedFrom_nil_eq_nil_iff (ids : List String) : repeatedFrom [] ids = [] ↔ ids.Nodup := by
  have count := length_repeatedFrom [] ids
  rw [List.nil_append, List.dedup_nil, List.length_nil] at count
  rw [← List.length_eq_zero_iff, ← List.dedup_eq_self]
  -- Leaving out repetitions makes a list shorter, unless there are none.
  constructor
  · intro none
    exact (List.dedup_sublist ids).eq_of_length (by omega)
  · intro same
    rw [same] at count
    omega

/-! ### What the warnings are about -/

/-- An identifier that comes again has its warning at each place but the first. -/
theorem mem_repeatedFrom_iff (issue : Issue) (before ids : List String) :
    issue ∈ repeatedFrom before ids ↔
      ∃ earlier id later, ids = earlier ++ id :: later ∧ id ∈ before ++ earlier ∧
        issue =
          duplicateIdWarning (before ++ earlier).length ((before ++ earlier).idxOf id) id := by
  induction ids generalizing before with
  | nil => simp [repeatedFrom]
  | cons id rest ih =>
    rw [repeatedFrom, List.mem_append, ih]
    -- A warning is about the first identifier, or about one that has the first one before it.
    constructor
    · rintro (here | ⟨earlier, other, later, rfl, again, rfl⟩)
      · split at here
        · rename_i again
          exact ⟨[], id, rest, rfl, by simpa using again, by simpa using here⟩
        · cases here
      · exact ⟨id :: earlier, other, later, rfl, by simpa using again, by simp⟩
    -- A place among the identifiers is the first one, or it lies behind that.
    · rintro ⟨_ | ⟨first, earlier⟩, other, later, split, again, rfl⟩
      · cases split
        rw [List.append_nil] at again
        exact .inl (by simp [again])
      · cases split
        exact .inr ⟨earlier, other, later, rfl, by simpa using again, by simp⟩

/-- What an accepted document is warned about: a key at the top, of a policy or of a scope that is
not known, or an identifier that an earlier policy has. -/
inductive Warned (doc : Node) (policies : List Node) : Issue → Prop
  | top {key : String} (there : key ∈ doc.keys)
      (unknown : key ∉ ["version", "project", "policies"]) :
      Warned doc policies (unknownKeyWarning "" documentKeys key)
  | policy {index : Nat} {policy : Node} {key : String} (listed : policies[index]? = some policy)
      (there : key ∈ policy.keys)
      (unknown : key ∉ ["id", "description", "rule", "applies_to", "tests"]) :
      Warned doc policies (unknownKeyWarning (policyPath index) policyKeys key)
  | scope {index : Nat} {policy : Node} {key : String} (listed : policies[index]? = some policy)
      (there : key ∈ policy.scope.keys) (unknown : key ≠ "tools") :
      Warned doc policies (unknownKeyWarning (policyPath index ++ ".applies_to") scopeKeys key)
  | repeated {earlier later : List String} {id : String}
      (ids : policyIds policies = earlier ++ id :: later) (again : id ∈ earlier) :
      Warned doc policies (duplicateIdWarning earlier.length (earlier.idxOf id) id)

/-- The warnings about keys of policies are about policies and about scopes. -/
theorem mem_keyWarningsFrom_iff {policies : List Node}
    (shaped : ∀ policy ∈ policies, IsPolicy policy) (issue : Issue) :
    issue ∈ keyWarningsFrom 0 policies ↔
      ∃ index policy, policies[index]? = some policy ∧
        ((∃ key ∈ policy.keys, key ∉ policyKeys ∧
            issue = unknownKeyWarning (policyPath index) policyKeys key) ∨
          ∃ key ∈ policy.scope.keys, key ≠ "tools" ∧
            issue = unknownKeyWarning (policyPath index ++ ".applies_to") scopeKeys key) := by
  -- Each policy is told apart by its index, under which it is also warned about.
  rw [keyWarningsFrom, List.mem_flatMap, Prod.exists, exists_comm]
  refine exists_congr fun index => exists_congr fun policy => ?_
  rw [List.mem_zipIdx_iff_getElem?]
  refine and_congr_right fun listed => ?_
  dsimp only
  -- What is said of one policy is known key by key.
  rw [(shaped policy (List.mem_of_getElem? listed)).bodyWarnings_eq]
  simp [scopeKeys, @eq_comm _ issue, and_assoc]

/-- The warnings about an accepted document are what it is warned about. -/
theorem mem_documentWarnings_iff {doc : Node} {policies : List Node}
    (listed : doc.get? "policies" = some (.sequence policies))
    (shaped : ∀ policy ∈ policies, IsPolicy policy) (issue : Issue) :
    issue ∈ documentWarnings doc ↔ Warned doc policies issue := by
  rw [(documentWarnings_perm listed shaped).mem_iff, List.mem_append, List.mem_append,
    mem_repeatedFrom_iff, mem_keyWarningsFrom_iff shaped]
  -- The kinds of warnings are the causes for which there is one.
  constructor
  · rintro (top | ⟨earlier, id, later, ids, again, rfl⟩ |
      ⟨index, policy, found, ⟨key, there, unknown, rfl⟩ | ⟨key, there, unknown, rfl⟩⟩)
    · obtain ⟨key, unknown, rfl⟩ := List.mem_map.mp top
      rw [List.mem_filter, decide_eq_true_eq] at unknown
      exact .top unknown.1 unknown.2
    · exact .repeated ids again
    · exact .policy found there unknown
    · exact .scope found there unknown
  · intro warned
    -- Each cause is looked up among the kinds of warnings in turn.
    cases warned with
    | top there unknown =>
      exact .inl (List.mem_map_of_mem (List.mem_filter.mpr ⟨there, decide_eq_true unknown⟩))
    | policy found there unknown => exact .inr (.inr ⟨_, _, found, .inl ⟨_, there, unknown, rfl⟩⟩)
    | scope found there unknown => exact .inr (.inr ⟨_, _, found, .inr ⟨_, there, unknown, rfl⟩⟩)
    | repeated ids again => exact .inr (.inl ⟨_, _, _, ids, again, rfl⟩)

/-- A document with no key that is not known and no identifier that comes again. -/
structure IsTidy (doc : Node) (policies : List Node) : Prop where
  top : ∀ key ∈ doc.keys, key ∈ ["version", "project", "policies"]
  bodies : ∀ policy ∈ policies, ∀ key ∈ policy.keys,
    key ∈ ["id", "description", "rule", "applies_to", "tests"]
  scopes : ∀ policy ∈ policies, ∀ key ∈ policy.scope.keys, key = "tools"
  distinct : (policyIds policies).Nodup

/-- A document is tidy exactly where it is warned about nothing. -/
theorem isTidy_iff_not_warned (doc : Node) (policies : List Node) :
    IsTidy doc policies ↔ ∀ issue, ¬Warned doc policies issue := by
  constructor
  -- Each kind of warning contradicts one part of tidiness, and the other way round.
  · rintro tidy issue (⟨there, unknown⟩ | ⟨listed, there, unknown⟩ | ⟨listed, there, unknown⟩ |
      ⟨ids, again⟩)
    · exact unknown (tidy.top _ there)
    · exact unknown (tidy.bodies _ (List.mem_of_getElem? listed) _ there)
    · exact unknown (tidy.scopes _ (List.mem_of_getElem? listed) _ there)
    · -- An identifier that comes again would be one of two equal ones.
      have distinct := tidy.distinct
      rw [ids, List.nodup_append] at distinct
      exact distinct.2.2 _ again _ List.mem_cons_self rfl
  · intro quiet
    refine ⟨fun key there => ?_, fun policy member key there => ?_,
      fun policy member key there => ?_, ?_⟩
    · by_contra unknown
      exact quiet _ (.top there unknown)
    · by_contra unknown
      obtain ⟨index, listed⟩ := List.mem_iff_getElem?.mp member
      exact quiet _ (.policy listed there unknown)
    · by_contra unknown
      obtain ⟨index, listed⟩ := List.mem_iff_getElem?.mp member
      exact quiet _ (.scope listed there unknown)
    · -- Identifiers are different where no warning says that one of them comes again.
      rw [← repeatedFrom_nil_eq_nil_iff, List.eq_nil_iff_forall_not_mem]
      intro issue again
      obtain ⟨earlier, id, later, ids, among, rfl⟩ := (mem_repeatedFrom_iff _ _ _).mp again
      exact quiet _ (.repeated ids among)

/-! ### What the warnings depend on -/

/-- Policies that are alike as far as warnings go. -/
structure SameOutline (policy other : Node) : Prop where
  keys : policy.keys = other.keys
  scope : policy.scope.keys = other.scope.keys
  id : (Rule.ofNode policy).id = (Rule.ofNode other).id

/-- Policies that are alike are warned about alike. -/
theorem warningsFrom_congr {policies others : List Node}
    (shaped : ∀ policy ∈ policies, IsPolicy policy) (shapedToo : ∀ policy ∈ others, IsPolicy policy)
    (alike : List.Forall₂ SameOutline policies others) (seen : SeenIds) (index : Nat) :
    warningsFrom seen index policies = warningsFrom seen index others := by
  induction alike generalizing seen index with
  | nil => rfl
  | @cons policy other _ _ same alike ih =>
    rw [List.forall_mem_cons] at shaped shapedToo
    have identified := shaped.1.idText?_eq.trans (congrArg some same.id)
    rw [← shapedToo.1.idText?_eq] at identified
    -- The same identifier is looked up and learned, so that the others are judged alike, too.
    have learned : seenAfter seen index policy = seenAfter seen index other := by
      unfold seenAfter
      rw [identified]
    rw [warningsFrom, warningsFrom, policyWarnings, policyWarnings, identified,
      shaped.1.bodyWarnings_eq, shapedToo.1.bodyWarnings_eq, same.keys, same.scope, learned,
      ih shaped.2 shapedToo.2]

/-- Documents that are alike at the top and policy by policy are warned about alike. -/
theorem documentWarnings_congr {doc other : Node} {policies others : List Node}
    (listed : doc.get? "policies" = some (.sequence policies))
    (listedToo : other.get? "policies" = some (.sequence others))
    (shaped : ∀ policy ∈ policies, IsPolicy policy) (shapedToo : ∀ policy ∈ others, IsPolicy policy)
    (keys : doc.keys = other.keys) (alike : List.Forall₂ SameOutline policies others) :
    documentWarnings doc = documentWarnings other := by
  rw [documentWarnings, documentWarnings, unknownKeyWarnings_eq, unknownKeyWarnings_eq, listed,
    listedToo, keys]
  dsimp only [Option.bind_some, Node.items?, Option.map_some]
  -- The keys at the top are the same, so that the policies are what is left.
  rw [warningsFrom_congr shaped shapedToo alike]

/-! ### What a strict run lets pass -/

namespace Program.Findings

/-- A strict run turns down what any run does, and whatever is warned about. -/
theorem verdict_strict_eq_ok_iff (f : Findings) (path : String) :
    f.verdict true path = .ok () ↔ f.report.warnings = [] ∧ f.verdict false path = .ok () := by
  unfold verdict
  -- A violation comes first either way, and only without one are the warnings looked at.
  cases f.report.firstViolation? with
  | some violation => simp
  | none => cases warned : f.report.warnings <;> simp [isHeldUp, warned]

/-- A strict survey turns down what any survey does, and whatever is warned about. -/
theorem isAccepted_strict_iff (f : Findings) :
    f.isAccepted true = true ↔ f.report.warnings = [] ∧ f.isAccepted false = true := by
  simp only [isAccepted, isHeldUp, Bool.and_eq_true, Bool.not_eq_true', Bool.true_and,
    Bool.false_and, Bool.not_eq_false', List.isEmpty_iff, and_true]
  -- What is left is about the truth values of the parts.
  tauto

end Program.Findings

/-- In either mode the warnings about an accepted document are those of its description. -/
theorem warnings_validate {doc : Node} (accepted : validatePolicy doc = .ok ()) (mode : Mode) :
    (validate mode doc).warnings = documentWarnings doc := by
  rw [warnings_validate_eq accepted mode, validate_collectAll]

/--
Strict runs let an accepted document pass exactly where it is tidy.

In either mode there is one warning for each key that is not known, and one for each policy beyond
those with different identifiers. Nothing but the keys at the top, of policies and of scopes, and
the texts of the identifiers, has to do with the warnings.
-/
theorem warnings_exact {doc : Node} (accepted : validatePolicy doc = .ok ()) :
    ∃ policies, doc.get? "policies" = some (.sequence policies) ∧ ∀ mode,
      ((validate mode doc).warnings = [] ↔ IsTidy doc policies) ∧
      (∀ runsTests path,
        ((Program.Findings.ofNode mode runsTests doc).verdict true path = .ok () ↔
          IsTidy doc policies ∧
            (Program.Findings.ofNode mode runsTests doc).verdict false path = .ok ()) ∧
        ((Program.Findings.ofNode mode runsTests doc).isAccepted true = true ↔
          IsTidy doc policies ∧
            (Program.Findings.ofNode mode runsTests doc).isAccepted false = true)) ∧
      (validate mode doc).warnings.length + (policyIds policies).dedup.length =
        unknownCount ["version", "project", "policies"] doc +
          (policies.map policyUnknownCount).sum + policies.length ∧
      (∀ issue, issue ∈ (validate mode doc).warnings ↔ Warned doc policies issue) ∧
      ∀ other others, validatePolicy other = .ok () →
        other.get? "policies" = some (.sequence others) → doc.keys = other.keys →
        List.Forall₂ SameOutline policies others →
        (validate mode other).warnings = (validate mode doc).warnings := by
  obtain ⟨_, _, policies, listed, shaped⟩ := (validatePolicy_exact doc).1.mp accepted
  refine ⟨policies, listed, fun mode => ?_⟩
  -- Nothing is warned about where there is no cause for a warning.
  have tidy : documentWarnings doc = [] ↔ IsTidy doc policies := by
    rw [isTidy_iff_not_warned, List.eq_nil_iff_forall_not_mem]
    simp only [mem_documentWarnings_iff listed shaped]
  -- The findings of a run hold the warnings of its mode, which are those of the description.
  have found (runsTests : Bool) :
      (Program.Findings.ofNode mode runsTests doc).report.warnings = documentWarnings doc :=
    warnings_validate accepted mode
  refine ⟨by rw [warnings_validate accepted, tidy], fun runsTests path => ⟨?_, ?_⟩, ?_,
    fun issue => ?_, fun other others acceptedToo listedToo keys alike => ?_⟩
  · rw [Program.Findings.verdict_strict_eq_ok_iff, found, tidy]
  · rw [Program.Findings.isAccepted_strict_iff, found, tidy]
  · -- The warnings are counted kind by kind.
    have repetitions := length_repeatedFrom [] (policyIds policies)
    have many : (policyIds policies).length = policies.length := List.length_map _
    rw [List.nil_append, List.dedup_nil, List.length_nil, many] at repetitions
    have top : ((doc.keys.filter (· ∉ documentKeys)).map
        (unknownKeyWarning "" documentKeys)).length =
          unknownCount ["version", "project", "policies"] doc := by
      rw [List.length_map, unknownCount, List.countP_eq_length_filter]
      rfl
    rw [warnings_validate accepted, (documentWarnings_perm listed shaped).length_eq,
      List.length_append, List.length_append, length_keyWarningsFrom shaped, top]
    -- The repetitions are as many as the policies beyond the different identifiers.
    omega
  · rw [warnings_validate accepted, mem_documentWarnings_iff listed shaped]
  · obtain ⟨_, _, named, again, shapedToo⟩ := (validatePolicy_exact other).1.mp acceptedToo
    cases listedToo.symm.trans again
    rw [warnings_validate accepted, warnings_validate acceptedToo,
      documentWarnings_congr listed listedToo shaped shapedToo keys alike]

/-- Three keys that are not known and an identifier that comes again make for four warnings. -/
def untidyTree : Node :=
  .mapping [
    ("version", .int 1), ("polices", .null),
    ("policies", .sequence [
      .mapping [("id", .int 7), ("rule", .mapping [("blocked", .bool true)]), ("note", .null),
        ("applies_to", .mapping [("tool", .null), ("tools", .sequence [.mapping [("x", .null)]])])],
      .mapping [("id", .string "7"), ("rule", .string "deny"),
        ("applies_to", .mapping [("tools", .sequence [.string "*"])])]])]

/-- The four warnings keep the untidy tree from being let pass. -/
theorem untidyTree_heldUp :
    validatePolicy untidyTree = .ok () ∧ (validate .failFast untidyTree).warnings.length = 4 ∧
      ∃ policies, untidyTree.get? "policies" = some (.sequence policies) ∧
        ¬IsTidy untidyTree policies := by
  have accepted : validatePolicy untidyTree = .ok () := by cbv
  obtain ⟨policies, listed, described⟩ := warnings_exact accepted
  have many : (validate .failFast untidyTree).warnings.length = 4 := by decide +kernel
  refine ⟨accepted, many, policies, listed, fun tidy => ?_⟩
  rw [(described .failFast).1.mpr tidy] at many
  cases many

end ToolPolicy
