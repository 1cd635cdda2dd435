import Mathlib.Data.List.Forall2
import ToolPolicy.Program.Basic
import ToolPolicy.Proofs.Policy.Modes
import ToolPolicy.Proofs.Policy.TestCase

/-! The ways to check policy files agree: a run that stops at the first file that does not pass, one
that goes over all files, and one that lists them all for programs. -/

namespace ToolPolicy.Program

/-- What a document has to be like for its file to pass. -/
structure IsSound (isStrict runsTests : Bool) (doc : Node) : Prop where
  clean : (validate .collectAll doc).errors = []
  quiet : isStrict = true → (validate .collectAll doc).warnings = []
  tested : runsTests = true → ∃ document, PolicyDocument.ofNode doc = .ok document ∧
    ∀ o ∈ runTests document.policies, o.isPassed = true

/-- A file passes if it loads and its document is sound. -/
def Passes (s : Setup) (isStrict runsTests : Bool) (path : String) : Prop :=
  ∃ doc, Loader.load s.limit path (s.workspace.entry? path) = .ok doc ∧
    IsSound isStrict runsTests doc

/-! ### One document -/

/-- No test fails exactly where each of them passes. -/
theorem failures_eq_nil_iff (f : Findings) :
    f.failures = [] ↔ ∀ o ∈ f.ran, o.isPassed = true := by
  simp [Findings.failures, List.filter_eq_nil_iff]

/-- The tests of a document without errors are those of its policies. -/
theorem failures_ofNode_eq_nil_iff {mode : Mode} {doc : Node}
    (clean : (validate .collectAll doc).errors = []) (runsTests : Bool) :
    (Findings.ofNode mode runsTests doc).failures = [] ↔
      (runsTests = true → ∃ document, PolicyDocument.ofNode doc = .ok document ∧
        ∀ o ∈ runTests document.policies, o.isPassed = true) := by
  have valid : (validate .collectAll doc).isValid = true := List.isEmpty_iff.mpr clean
  -- Without errors there is a document, whose tests run whatever the mode.
  obtain ⟨document, typed⟩ := (exists_ofNode_iff doc).mpr ((isValid_validate_iff _ doc).mp valid)
  rw [failures_eq_nil_iff]
  cases runsTests with
  | false => simp [Findings.ofNode, Findings.ran]
  | true => simp [Findings.ofNode, Findings.ran, outcomesOf_validate typed, typed]

/-- Warnings do not hold a document up where there are none, or where they do not count. -/
theorem isHeldUp_ofNode_eq_false_iff (mode : Mode) (isStrict runsTests : Bool) (doc : Node) :
    (Findings.ofNode mode runsTests doc).isHeldUp isStrict = false ↔
      (isStrict = true → (validate mode doc).warnings = []) := by
  cases isStrict <;> simp [Findings.isHeldUp, Findings.ofNode]

/-- Findings let a file through exactly where its document is sound, in either mode. -/
theorem isAccepted_ofNode_iff (mode : Mode) (isStrict runsTests : Bool) (doc : Node) :
    (Findings.ofNode mode runsTests doc).isAccepted isStrict = true ↔
      IsSound isStrict runsTests doc := by
  -- Both modes find the same in a document without errors, and agree on where there are some.
  have valid : (validate mode doc).isValid = true ↔ (validate .collectAll doc).errors = [] := by
    rw [isValid_validate_iff, ← isValid_validate_iff .collectAll, Report.isValid,
      List.isEmpty_iff]
  have alike (clean : (validate .collectAll doc).errors = []) :
      (validate mode doc).warnings = (validate .collectAll doc).warnings :=
    warnings_validate_eq ((isValid_validate_iff mode doc).mp (valid.mpr clean)) mode
  rw [Findings.isAccepted, Bool.and_eq_true, Bool.and_eq_true, Bool.not_eq_true',
    isHeldUp_ofNode_eq_false_iff, List.isEmpty_iff]
  constructor
  · rintro ⟨⟨accepted, quiet⟩, passed⟩
    have clean := valid.mp accepted
    rw [alike clean] at quiet
    exact ⟨clean, quiet, (failures_ofNode_eq_nil_iff clean runsTests).mp passed⟩
  · rintro ⟨clean, quiet, tested⟩
    rw [alike clean]
    exact ⟨⟨valid.mpr clean, quiet⟩, (failures_ofNode_eq_nil_iff clean runsTests).mpr tested⟩

/-- A report names no violation exactly where it has no errors. -/
theorem firstViolation?_eq_none_iff (mode : Mode) (doc : Node) :
    (validate mode doc).firstViolation? = none ↔ (validate mode doc).isValid = true := by
  rw [isValid_validate_iff, ← result_validate mode doc, Report.result]
  cases (validate mode doc).firstViolation? with
  | none => simp
  | some v => simp

/-- The verdict on a file is favorable exactly where its document is sound. -/
theorem verdict_ofNode_eq_ok_iff (mode : Mode) (isStrict runsTests : Bool) (doc : Node)
    (path : String) :
    (Findings.ofNode mode runsTests doc).verdict isStrict path = .ok () ↔
      IsSound isStrict runsTests doc := by
  rw [← isAccepted_ofNode_iff mode, Findings.verdict, Findings.isAccepted, Bool.and_eq_true,
    Bool.and_eq_true]
  have violated := firstViolation?_eq_none_iff mode doc
  have report : (Findings.ofNode mode runsTests doc).report = validate mode doc := rfl
  rw [report, ← violated]
  -- The three things that can be wrong are looked at one after the other.
  cases (validate mode doc).firstViolation? with
  | some v => simp
  | none =>
    cases (Findings.ofNode mode runsTests doc).isHeldUp isStrict with
    | true => simp
    | false =>
      cases (Findings.ofNode mode runsTests doc).failures with
      | nil => simp
      | cons o rest => simp

/-! ### One file -/

/-- Loading a file with its events gives what loading it gives. -/
theorem loadFile_eq (s : Setup) (path : String) :
    (loadFile s path).2 = Loader.load s.limit path (s.workspace.entry? path) := by
  unfold loadFile Loader.load
  cases Loader.readText s.limit path (s.workspace.entry? path) with
  | error fault => rfl
  | ok text => rfl

/-- A file that does not load does not pass. -/
theorem not_passes_of_load {s : Setup} {path : String} {fault : LoadFault}
    (failed : Loader.load s.limit path (s.workspace.entry? path) = .error fault)
    (isStrict runsTests : Bool) : ¬Passes s isStrict runsTests path := by
  rintro ⟨doc, loaded, _⟩
  rw [failed] at loaded
  cases loaded

/-- A file that loads passes exactly where its document is sound. -/
theorem passes_iff_of_load {s : Setup} {path : String} {doc : Node}
    (loaded : Loader.load s.limit path (s.workspace.entry? path) = .ok doc)
    (isStrict runsTests : Bool) :
    Passes s isStrict runsTests path ↔ IsSound isStrict runsTests doc := by
  constructor
  · rintro ⟨other, again, sound⟩
    cases loaded.symm.trans again
    exact sound
  · intro sound
    exact ⟨doc, loaded, sound⟩

/-- Checking a file for people gives the findings about its document. -/
theorem checkFile_eq (s : Setup) (r : CheckRequest) (path : String) :
    (checkFile s r path).2 =
      match Loader.load s.limit path (s.workspace.entry? path) with
      | .error fault => .error fault
      | .ok doc =>
        .ok (Findings.ofNode (if r.isExhaustive then .collectAll else .failFast) r.runsTests
          doc) := by
  rw [← loadFile_eq, checkFile]
  dsimp only
  -- The findings come with their events, which are left out here.
  split <;> simp_all

/-- A survey accepts a file exactly where it passes. -/
theorem surveyFile_iff (s : Setup) (r : CheckRequest) (path : String) :
    (surveyFile s r path).2 = true ↔ Passes s r.isStrict r.runsTests path := by
  have checked := checkFile_eq s r path
  unfold surveyFile
  dsimp only
  -- A file that does not load does not pass; one that loads passes by what its report says.
  cases loaded : Loader.load s.limit path (s.workspace.entry? path) with
  | error fault =>
    simp [loaded] at checked
    simp [checked, not_passes_of_load loaded]
  | ok doc =>
    simp only [loaded] at checked
    rw [checked, passes_iff_of_load loaded]
    exact isAccepted_ofNode_iff _ _ _ _

/-! ### What goes to the standard output -/

/-- Effects of which nothing goes to the standard output. -/
def Silent (effects : List Effect) : Prop := ∀ e ∈ effects, e.output = ""

/-- Parts of which nothing goes to the standard output make up a silent whole. -/
theorem Silent.append {first second : List Effect} (before : Silent first) (after : Silent second) :
    Silent (first ++ second) :=
  List.forall_mem_append.mpr ⟨before, after⟩

/-- Silent effects write nothing. -/
theorem Silent.output {effects : List Effect} (silent : Silent effects) :
    String.join (effects.map Effect.output) = "" := by
  -- Every effect prints the empty text.
  have empty : effects.map Effect.output = List.replicate effects.length "" := by
    rw [List.eq_replicate_iff]
    refine ⟨List.length_map _, ?_⟩
    rw [List.forall_mem_map]
    exact silent
  rw [empty]
  induction effects.length with
  | zero => rfl
  | succ n ih => simp [List.replicate_succ, ih]

/-- Loading a file is silent. -/
theorem silent_loadFile (s : Setup) (path : String) : Silent (loadFile s path).1 := by
  unfold loadFile
  cases Loader.readText s.limit path (s.workspace.entry? path) with
  | error fault => simp [Silent]
  | ok text => simp [Silent, fileEvent, Effect.output]

/-- Warnings and failed tests do not go to the standard output. -/
theorem silent_findings (isStrict : Bool) (path : String) (f : Findings) :
    Silent (warningEffects isStrict path f.report.warnings ++ testEffects path f) := by
  -- Warnings are told, tests that fail are told one by one, and a summary is logged.
  refine Silent.append ?_ (Silent.append ?_ ?_)
  · rw [Silent, warningEffects, List.forall_mem_map]
    intro warning _
    cases isStrict <;> rfl
  · rw [Silent, List.forall_mem_map]
    exact fun o _ => rfl
  · split
    · simp [Silent, fileEvent, Effect.output]
    · simp [Silent]

/-- Checking a file for people is silent. -/
theorem silent_checkFile (s : Setup) (r : CheckRequest) (path : String) :
    Silent (checkFile s r path).1 := by
  have loading := silent_loadFile s path
  have starting : Silent
      [fileEvent .info checkComponent path "validating policy file" []] := by
    simp [Silent, fileEvent, Effect.output]
  unfold checkFile
  dsimp only
  split
  -- Without a document there are no findings to report.
  · exact starting.append loading
  · rw [List.append_assoc]
    exact (starting.append loading).append (silent_findings _ _ _)

/-- A survey of a file is silent. -/
theorem silent_surveyFile (s : Setup) (r : CheckRequest) (path : String) :
    Silent (surveyFile s r path).1 := by
  have checking := silent_checkFile s r path
  unfold surveyFile
  dsimp only
  split
  · exact checking.append (by simp [Silent, fileLine, Effect.output])
  · refine checking.append ?_
    rw [Silent, List.forall_mem_map]
    exact fun issue _ => rfl

/-! ### All files, for people -/

/-- Checking one file of a run in turn. -/
def checkAlone (s : Setup) (r : CheckRequest) (path : String) : Step Unit where
  effects := (checkFile s r path).1
  result :=
    match (checkFile s r path).2 with
    | .error fault => .error (.load fault)
    | .ok f => f.verdict r.isStrict path

/-- A run in turn checks its first file, and then the others. -/
theorem checkInTurn_cons (s : Setup) (r : CheckRequest) (path : String) (rest : List String) :
    checkInTurn s r (path :: rest) = checkAlone s r path >>= fun _ => checkInTurn s r rest := by
  rw [checkInTurn]
  -- The step for one file is made of two, of which the second one has no effects of its own.
  apply Step.ext
  · rw [Step.effects_bind, Step.effects_bind]
    dsimp only [Step.actAll, checkAlone]
    cases (checkFile s r path).2 with
    | error fault => simp [Step.effects_bind, Step.fail, Step.ofResult]
    | ok f => simp [Step.effects_bind, Step.ofResult]
  · rw [Step.result_bind, Step.result_bind]
    dsimp only [Step.actAll, checkAlone]
    cases (checkFile s r path).2 with
    | error fault => simp [Step.result_bind, Step.fail, Step.ofResult]
    | ok f => simp [Step.result_bind, Step.ofResult]

/-- A file is let through on its own exactly where it passes. -/
theorem checkAlone_eq_ok_iff (s : Setup) (r : CheckRequest) (path : String) :
    (checkAlone s r path).result = .ok () ↔ Passes s r.isStrict r.runsTests path := by
  rw [checkAlone, checkFile_eq]
  -- A file that does not load has no document that could be sound.
  cases loaded : Loader.load s.limit path (s.workspace.entry? path) with
  | error fault => simp [not_passes_of_load loaded]
  | ok doc =>
    rw [passes_iff_of_load loaded]
    exact verdict_ofNode_eq_ok_iff _ r.isStrict r.runsTests doc path

/-- Checking files in turn is silent. -/
theorem silent_checkInTurn (s : Setup) (r : CheckRequest) (files : List String) :
    Silent (checkInTurn s r files).effects := by
  induction files with
  | nil => exact fun e member => by cases member
  | cons path rest ih =>
    rw [checkInTurn_cons, Step.effects_bind]
    refine (silent_checkFile s r path).append ?_
    -- The other files are left alone if the first one is not let through.
    cases (checkAlone s r path).result with
    | error failure => exact fun e member => by cases member
    | ok passed => exact ih

/-- Files are let through in turn exactly where each of them passes. -/
theorem checkInTurn_eq_ok_iff (s : Setup) (r : CheckRequest) (files : List String) :
    (checkInTurn s r files).result = .ok () ↔
      ∀ path ∈ files, Passes s r.isStrict r.runsTests path := by
  induction files with
  | nil => simp [checkInTurn, pure, Step.ofResult]
  | cons path rest ih =>
    rw [checkInTurn_cons, Step.result_bind, List.forall_mem_cons, ← ih, ← checkAlone_eq_ok_iff]
    -- The first file that does not pass ends the run.
    cases (checkAlone s r path).result with
    | error failure => simp
    | ok passed => simp

/-! ### All files, counted -/

/-- Whether a file passes is found out by a survey of it. -/
instance (s : Setup) (isStrict runsTests : Bool) (path : String) :
    Decidable (Passes s isStrict runsTests path) :=
  decidable_of_iff _ (surveyFile_iff s ⟨[], true, isStrict, runsTests, .human⟩ path)

/-- The verdict on files that are all gone over: it counts those that do not pass. -/
def countedVerdict (s : Setup) (r : CheckRequest) : Except Failure Unit :=
  if ∀ path ∈ r.files, Passes s r.isStrict r.runsTests path then .ok ()
  else
    .error (.load (.rejectedFiles
      (r.files.countP fun path => ¬Passes s r.isStrict r.runsTests path)))

/-- Counting what a test that is as good as passing turns down gives the counted verdict. -/
theorem verdictOnCount_eq {s : Setup} {r : CheckRequest} {accepts : String → Bool}
    (exact : ∀ path, accepts path = true ↔ Passes s r.isStrict r.runsTests path) :
    verdictOnCount (r.files.countP (!accepts ·)) = countedVerdict s r := by
  -- The test and the property agree on each file, and so do their counts.
  have same : r.files.countP (!accepts ·) =
      r.files.countP fun path => ¬Passes s r.isStrict r.runsTests path := by
    refine List.countP_congr fun path _ => ?_
    simp [← exact path]
  -- Nothing is counted exactly where every file passes.
  have none : r.files.countP (!accepts ·) = 0 ↔
      ∀ path ∈ r.files, Passes s r.isStrict r.runsTests path := by
    simp [List.countP_eq_zero, exact]
  rw [verdictOnCount, countedVerdict, ← same]
  simp only [none]

/-- The counted verdict is favorable exactly where every file passes. -/
theorem countedVerdict_eq_ok_iff (s : Setup) (r : CheckRequest) :
    countedVerdict s r = .ok () ↔ ∀ path ∈ r.files, Passes s r.isStrict r.runsTests path := by
  unfold countedVerdict
  split
  · rename_i all
    simpa using all
  · rename_i some
    simpa using some

/-- A survey of all files gives the counted verdict. -/
theorem result_checkEach (s : Setup) (r : CheckRequest) :
    (checkEach s r).result = countedVerdict s r := by
  rw [checkEach, Step.result_bind]
  dsimp only [Step.actAll, Step.ofResult]
  rw [List.countP_map]
  -- A survey turns a file down exactly where it does not pass.
  exact verdictOnCount_eq (surveyFile_iff s r)

/-- A survey of all files is silent. -/
theorem silent_checkEach (s : Setup) (r : CheckRequest) : Silent (checkEach s r).effects := by
  rw [checkEach, Step.effects_bind]
  refine Silent.append ?_ (by simp [Silent, Step.actAll, Step.ofResult])
  dsimp only [Step.actAll]
  rw [Silent, List.forall_mem_flatMap, List.forall_mem_map]
  exact fun path _ => silent_surveyFile s r path

/-- For people, a line says that all files pass, and nothing else is printed. -/
theorem checkForPeople_eq (s : Setup) (r : CheckRequest) :
    (checkForPeople s r).result =
        (if r.isExhaustive then checkEach s r else checkInTurn s r r.files).result ∧
      String.join ((checkForPeople s r).effects.map Effect.output) =
        if (checkForPeople s r).result = .ok () then "OK validate\n" else "" := by
  have silent :
      Silent (if r.isExhaustive then checkEach s r else checkInTurn s r r.files).effects := by
    cases r.isExhaustive with
    | true => exact silent_checkEach s r
    | false => exact silent_checkInTurn s r r.files
  -- Both ways for people print the same line at the end.
  have parts : checkForPeople s r =
      (if r.isExhaustive then checkEach s r else checkInTurn s r r.files) >>= fun _ =>
        Step.act (.print "OK validate\n") := by
    unfold checkForPeople
    cases r.isExhaustive <;> rfl
  rw [parts]
  generalize (if r.isExhaustive then checkEach s r else checkInTurn s r r.files) = checked at silent
  have quiet := silent.output
  rw [Step.result_bind, Step.effects_bind]
  -- The line is printed after a check that went well.
  cases checked.result with
  | error failure => simp [quiet]
  | ok passed => simp [Step.act, Effect.output, quiet]

/-! ### All files, for programs -/

/-- What the entry of a file says of it. -/
structure Describes (s : Setup) (isStrict runsTests : Bool) (path : String) (entry : FileResult) :
    Prop where
  named : entry.path = path
  judged : entry.isAccepted = true ↔ Passes s isStrict runsTests path
  findings : ∀ doc, Loader.load s.limit path (s.workspace.entry? path) = .ok doc →
    entry.errors = (validate .collectAll doc).errors.map .ofIssue ∧
      entry.warnings = (validate .collectAll doc).warnings.map .ofIssue

/-- The entry of a file describes it. -/
theorem resultOf_describes (s : Setup) (r : CheckRequest) (path : String) :
    Describes s r.isStrict r.runsTests path (resultOf s r path).2 := by
  have same := loadFile_eq s path
  unfold resultOf
  dsimp only
  cases loaded : Loader.load s.limit path (s.workspace.entry? path) with
  -- A file that does not load has an entry of its own, and no document to describe.
  | error fault =>
    rw [same, loaded]
    refine ⟨rfl, ?_, fun doc found => ?_⟩
    · simp [FileResult.ofFault, not_passes_of_load loaded]
    · rw [loaded] at found
      cases found
  | ok doc =>
    rw [same, loaded]
    refine ⟨rfl, ?_, fun other found => ?_⟩
    · rw [passes_iff_of_load loaded]
      exact isAccepted_ofNode_iff .collectAll r.isStrict r.runsTests doc
    · rw [loaded] at found
      cases found
      exact ⟨rfl, rfl⟩

/-- The entries of the files of a request. -/
def entriesOf (s : Setup) (r : CheckRequest) : List FileResult :=
  r.files.map fun path => (resultOf s r path).2

/-- The entries describe the files one by one. -/
theorem entriesOf_describe (s : Setup) (r : CheckRequest) :
    List.Forall₂ (Describes s r.isStrict r.runsTests) r.files (entriesOf s r) := by
  rw [entriesOf, List.forall₂_map_right_iff, List.forall₂_same]
  exact fun path _ => resultOf_describes s r path

/-- For programs, the entries are printed and the verdict is the counted one. -/
theorem checkForPrograms_eq (s : Setup) (r : CheckRequest) :
    (checkForPrograms s r).result = countedVerdict s r ∧
      String.join ((checkForPrograms s r).effects.map Effect.output) =
        Json.pretty 0 (resultContent (entriesOf s r)) ++ "\n" := by
  -- The events of loading and the entries come from the same pass over the files.
  have listed : (r.files.map (resultOf s r)).map (·.2) = entriesOf s r := by
    rw [List.map_map]
    rfl
  have silent : Silent ((r.files.map (resultOf s r)).flatMap (·.1)) := by
    rw [Silent, List.forall_mem_flatMap, List.forall_mem_map]
    intro path _
    have loading := silent_loadFile s path
    unfold resultOf
    dsimp only
    split <;> exact loading
  unfold checkForPrograms
  dsimp only
  rw [listed]
  -- The verdict counts the entries that are not accepted, and these alone are printed.
  constructor
  · rw [Step.result_bind]
    dsimp only [Step.actAll]
    rw [Step.result_bind]
    dsimp only [Step.act, Step.ofResult]
    rw [entriesOf, List.countP_map]
    exact verdictOnCount_eq fun path => (resultOf_describes s r path).judged
  · rw [Step.effects_bind]
    dsimp only [Step.actAll]
    rw [Step.effects_bind, List.map_append, String.join_append, silent.output]
    simp [Step.act, Step.ofResult, Effect.output]

/-- The summary counts every file once. -/
theorem resultContent_entriesOf (s : Setup) (r : CheckRequest) :
    ∃ valid invalid : Nat,
      resultContent (entriesOf s r) = .mapping [
        ("files", .sequence ((entriesOf s r).map FileResult.content)),
        ("summary", .mapping [("total", .int r.files.length), ("valid", .int valid),
          ("invalid", .int invalid)])] ∧
      valid + invalid = r.files.length := by
  have all : (entriesOf s r).length = r.files.length := List.length_map _
  refine ⟨(entriesOf s r).countP (·.isAccepted), (entriesOf s r).countP (!·.isAccepted), ?_, ?_⟩
  · rw [resultContent, all]
  · rw [← all, List.length_eq_countP_add_countP (·.isAccepted)]
    simp

/-! ### All ways to check -/

end ToolPolicy.Program
