import ToolPolicy.Program.Basic
import ToolPolicy.Proofs.Program.Check

/-! A run that checks files in turn is decided by the first file that does not pass. -/

namespace ToolPolicy.Program

/-! ### Some files and then others -/

/-- A run in turn over files and then others goes on to the others after the first ones. -/
theorem checkInTurn_append (s : Setup) (r : CheckRequest) (files others : List String) :
    checkInTurn s r (files ++ others) =
      checkInTurn s r files >>= fun _ => checkInTurn s r others := by
  induction files with
  | nil =>
    -- A run over no files does nothing, so that the others are all that is left.
    apply Step.ext
    · rw [Step.effects_bind]
      rfl
    · rw [Step.result_bind]
      rfl
  | cons path rest ih =>
    rw [List.cons_append, checkInTurn_cons, checkInTurn_cons, ih, Step.bind_bind]

/-- What comes of a run over a single file is what comes of the file. -/
theorem result_checkInTurn_singleton (s : Setup) (r : CheckRequest) (path : String) :
    (checkInTurn s r [path]).result = (checkAlone s r path).result := by
  rw [checkInTurn_cons, Step.result_bind]
  cases (checkAlone s r path).result <;> rfl

/-! ### Why a file does not pass -/

/-- Why a file does not pass. A file that loads is judged by its shape first, then by the warnings
about it, and in the end by its tests. -/
inductive TurnsDown (s : Setup) (isStrict runsTests : Bool) (path : String) : Failure → Prop
  | unread {fault : LoadFault}
      (failed : Loader.load s.limit path (s.workspace.entry? path) = .error fault) :
      TurnsDown s isStrict runsTests path (.load fault)
  | refused {doc : Node} {violation : Violation}
      (loaded : Loader.load s.limit path (s.workspace.entry? path) = .ok doc)
      (violates : validatePolicy doc = .error violation) :
      TurnsDown s isStrict runsTests path (.policy path violation)
  | heldUp {doc : Node} (loaded : Loader.load s.limit path (s.workspace.entry? path) = .ok doc)
      (accepted : validatePolicy doc = .ok ()) (strict : isStrict = true)
      (warned : (validate .collectAll doc).warnings ≠ []) :
      TurnsDown s isStrict runsTests path (.load (.rejectedFiles 1))
  | failing {doc : Node} {document : PolicyDocument}
      (loaded : Loader.load s.limit path (s.workspace.entry? path) = .ok doc)
      (typed : PolicyDocument.ofNode doc = .ok document)
      (quiet : isStrict = true → (validate .collectAll doc).warnings = [])
      (tested : runsTests = true)
      (unpassed : 0 < (runTests document.policies).countP (!·.isPassed)) :
      TurnsDown s isStrict runsTests path
        (.testsFailed path ((runTests document.policies).countP (!·.isPassed))
          (runTests document.policies).length)

/-- A report names the violation that a document is refused for, whatever the mode. -/
theorem firstViolation?_validate_eq (mode : Mode) (doc : Node) :
    (validate mode doc).firstViolation? =
      match validatePolicy doc with
      | .error violation => some violation
      | .ok () => none := by
  -- The verdict is the first violation of the report, in either mode.
  rw [← result_validate mode doc, Report.result]
  cases (validate mode doc).firstViolation? <;> rfl

/-- A file is turned down on its own for what is the reason not to let it pass. -/
theorem TurnsDown.result_checkAlone {s : Setup} {r : CheckRequest} {path : String}
    {failure : Failure} (turned : TurnsDown s r.isStrict r.runsTests path failure) :
    (checkAlone s r path).result = .error failure := by
  rw [checkAlone, checkFile_eq]
  -- The reasons are the same in both modes, so that nothing depends on which one it is.
  generalize (if r.isExhaustive then Mode.collectAll else .failFast) = mode
  cases turned with
  | unread failed => rw [failed]
  | @refused doc _ loaded violates =>
    -- The violation is looked at before the warnings and the tests.
    have violated := firstViolation?_validate_eq mode doc
    rw [violates] at violated
    rw [loaded]
    simp [Findings.verdict, Findings.ofNode, violated]
  | @heldUp doc loaded accepted strict warned =>
    -- The warnings are looked at before the tests, and there is no violation.
    have clean := firstViolation?_validate_eq mode doc
    rw [accepted] at clean
    rw [← warnings_validate_eq accepted mode] at warned
    rw [loaded]
    simp [Findings.verdict, Findings.ofNode, Findings.isHeldUp, clean, strict, warned]
  | @failing doc document loaded typed quiet tested unpassed =>
    have accepted := (exists_ofNode_iff doc).mp ⟨document, typed⟩
    have clean : (Findings.ofNode mode r.runsTests doc).report.firstViolation? = none := by
      have found := firstViolation?_validate_eq mode doc
      rw [accepted] at found
      exact found
    rw [← warnings_validate_eq accepted mode] at quiet
    have passedOver := (isHeldUp_ofNode_eq_false_iff mode r.isStrict r.runsTests doc).mpr quiet
    -- What ran are the tests of the document, and those that count are the ones that failed.
    have ran : (Findings.ofNode mode r.runsTests doc).ran = runTests document.policies := by
      rw [tested]
      exact outcomesOf_validate typed
    have failed : (Findings.ofNode mode r.runsTests doc).failures.length =
        (runTests document.policies).countP (!·.isPassed) := by
      rw [Findings.failures, ran, List.countP_eq_length_filter]
    have among : (Findings.ofNode mode r.runsTests doc).failures.isEmpty = false := by
      rw [List.isEmpty_eq_false_iff, ← List.length_pos_iff, failed]
      exact unpassed
    rw [loaded]
    dsimp only
    rw [Findings.verdict, clean, passedOver, among, failed, ran]
    rfl

/-- There is a reason wherever a file does not pass. -/
theorem exists_turnsDown {s : Setup} {isStrict runsTests : Bool} {path : String}
    (rejected : ¬Passes s isStrict runsTests path) :
    ∃ failure, TurnsDown s isStrict runsTests path failure := by
  -- The reasons are gone through in the order in which they are looked at.
  cases loaded : Loader.load s.limit path (s.workspace.entry? path) with
  | error fault => exact ⟨_, .unread loaded⟩
  | ok doc =>
    rw [passes_iff_of_load loaded] at rejected
    cases judged : validatePolicy doc with
    | error violation => exact ⟨_, .refused loaded judged⟩
    | ok accepted =>
      obtain ⟨document, typed⟩ := (exists_ofNode_iff doc).mpr judged
      by_cases quiet : isStrict = true → (validate .collectAll doc).warnings = []
      · -- All that is left is a test that does not pass.
        have failed : ¬(runsTests = true → ∃ document, PolicyDocument.ofNode doc = .ok document ∧
            ∀ o ∈ runTests document.policies, o.isPassed = true) := by
          intro tested
          have clean := List.isEmpty_iff.mp ((isValid_validate_iff .collectAll doc).mpr judged)
          exact rejected ⟨clean, quiet, tested⟩
        rw [Classical.not_imp] at failed
        obtain ⟨tested, failed⟩ := failed
        -- Were none of the tests to fail, the document would be sound after all.
        refine ⟨_, .failing loaded typed quiet tested (List.countP_pos_iff.mpr ?_)⟩
        by_contra none
        refine failed ⟨document, typed, fun o member => ?_⟩
        by_contra unpassed
        exact none ⟨o, member, by simpa using unpassed⟩
      · rw [Classical.not_imp] at quiet
        exact ⟨_, .heldUp loaded judged quiet.1 quiet.2⟩

/-! ### What a file is judged by -/

/-- Setups with the same limit and the same entry at a path check the file there alike. -/
theorem checkAlone_congr {s t : Setup} {path : String} (limit : t.limit = s.limit)
    (entry : t.workspace.entry? path = s.workspace.entry? path) (r : CheckRequest)
    (files : List String) : checkAlone t { r with files } path = checkAlone s r path := by
  -- Of a setup nothing is used but the limit and what stands at the path.
  have loaded : loadFile t path = loadFile s path := by
    unfold loadFile
    rw [limit, entry]
  have checked : checkFile t { r with files } path = checkFile s r path := by
    unfold checkFile
    rw [loaded]
  rw [checkAlone, checkAlone, checked]

/-- Setups with the same limit and the same entries check files alike. -/
theorem checkInTurn_congr (s t : Setup) (limit : t.limit = s.limit) (r : CheckRequest)
    (listed : List String) {files : List String}
    (entries : ∀ path ∈ files, t.workspace.entry? path = s.workspace.entry? path) :
    checkInTurn t { r with files := listed } files = checkInTurn s r files := by
  -- The files that are listed stay as they are, while those that are still to be checked get fewer.
  induction files with
  | nil => rfl
  | cons path rest ih =>
    rw [List.forall_mem_cons] at entries
    rw [checkInTurn_cons, checkInTurn_cons, checkAlone_congr limit entries.1, ih entries.2]

/-! ### The first file that does not pass -/

/-- Where not all files pass, there is a first one that does not. -/
theorem exists_first_rejected {s : Setup} {isStrict runsTests : Bool} {files : List String}
    (rejects : ∃ path ∈ files, ¬Passes s isStrict runsTests path) :
    ∃ before path after, files = before ++ path :: after ∧
      (∀ p ∈ before, Passes s isStrict runsTests p) ∧ ¬Passes s isStrict runsTests path := by
  -- A search from the front comes upon it.
  have found : (files.find? fun path => ¬Passes s isStrict runsTests path).isSome := by
    simpa using rejects
  obtain ⟨path, first⟩ := Option.isSome_iff_exists.mp found
  obtain ⟨rejected, before, after, parts, passed⟩ := List.find?_eq_some_iff_append.mp first
  exact ⟨before, path, after, parts, by simpa using passed, by simpa using rejected⟩

/-- A run over files that pass and one that does not is turned down for the last one. -/
theorem result_checkInTurn_rejected {s : Setup} {r : CheckRequest} {before : List String}
    {path : String} {failure : Failure}
    (passed : ∀ p ∈ before, Passes s r.isStrict r.runsTests p)
    (turned : TurnsDown s r.isStrict r.runsTests path failure) :
    (checkInTurn s r (before ++ [path])).result = .error failure := by
  -- The run gets past the files that pass, and what is left is the last one by itself.
  rw [checkInTurn_append, Step.result_bind, (checkInTurn_eq_ok_iff s r before).mpr passed]
  dsimp only
  rw [result_checkInTurn_singleton, turned.result_checkAlone]

/-- A run for people that is turned down for one of its files is over with that file. -/
theorem check_eq_of_stop (s : Setup) (r : CheckRequest) (human : r.format = .human)
    (inTurn : r.isExhaustive = false) {checked later : List String}
    (parts : r.files = checked ++ later) {failure : Failure}
    (stopped : (checkInTurn s r checked).result = .error failure) :
    check s r = checkInTurn s r checked := by
  have people : check s r =
      checkInTurn s r r.files >>= fun _ => Step.act (.print "OK validate\n") := by
    rw [check, human]
    dsimp only
    unfold checkForPeople
    rw [inTurn]
    rfl
  -- Neither the other files nor the line of success come after a failure.
  rw [people, parts, checkInTurn_append, Step.bind_of_error stopped, Step.bind_of_error stopped]

/--
A run that checks files in turn is decided by the first file that does not pass.

The run fails for the one reason not to let that file pass. Nothing but the files up to it is seen
in the run: whatever stands at other paths, and whichever files are listed after it, the run ends
with the same status and prints and reports the same.
-/
theorem check_stops_first {s : Setup} {r : CheckRequest} (human : r.format = .human)
    (inTurn : r.isExhaustive = false)
    (rejects : ∃ path ∈ r.files, ¬Passes s r.isStrict r.runsTests path) :
    ∃ before path after, r.files = before ++ path :: after ∧
      (∀ p ∈ before, Passes s r.isStrict r.runsTests p) ∧
      ¬Passes s r.isStrict r.runsTests path ∧
      ∃ failure, (check s r).result = .error failure ∧
        (∀ other, TurnsDown s r.isStrict r.runsTests path other ↔ other = failure) ∧
        (∀ logging time, ((check s r).outcome logging time).status = failure.exitStatus ∧
          ((check s r).outcome logging time).output = "") ∧
        ∀ w later, (∀ p ∈ before ++ [path], w.entry? p = s.workspace.entry? p) →
          ∀ logging time,
            (check ⟨s.limit, w⟩ { r with files := before ++ path :: later }).outcome logging time =
              (check s r).outcome logging time := by
  obtain ⟨before, path, after, parts, passed, rejected⟩ := exists_first_rejected rejects
  obtain ⟨failure, turned⟩ := exists_turnsDown rejected
  have grouped (rest : List String) : before ++ path :: rest = (before ++ [path]) ++ rest := by
    rw [List.append_assoc, List.singleton_append]
  -- The whole run is the one over the files up to the first that does not pass.
  have stopped := result_checkInTurn_rejected passed turned
  have whole := check_eq_of_stop s r human inTurn (parts.trans (grouped after)) stopped
  refine ⟨before, path, after, parts, passed, rejected, failure, by rw [whole, stopped],
    fun other => ⟨fun again => ?_, fun same => same ▸ turned⟩, fun logging time => ⟨?_, ?_⟩,
    fun w later entries logging time => ?_⟩
  · -- A file on its own has one result, so that there is no second reason.
    have unique := turned.result_checkAlone.symm.trans again.result_checkAlone
    cases unique
    rfl
  · rw [Step.outcome, whole]
    dsimp only
    rw [stopped]
    rfl
  · -- All that goes to the standard output is the line of success, which is not reached.
    rw [Step.outcome, whole]
    exact (silent_checkInTurn s r _).output
  · -- The other run sees the same entries up to the file that stops both.
    have same : checkInTurn ⟨s.limit, w⟩ { r with files := before ++ path :: later }
        (before ++ [path]) = checkInTurn s r (before ++ [path]) :=
      checkInTurn_congr s ⟨s.limit, w⟩ rfl r _ entries
    have wholeToo := check_eq_of_stop ⟨s.limit, w⟩ { r with files := before ++ path :: later } human
      inTurn (grouped later) (by rw [same, stopped])
    rw [wholeToo, same, whole]

/-- Two files, of which the first one passes and the second one is of no known version. -/
def mixedSetup : Setup where
  limit := 100
  workspace := {
    entry? := fun path =>
      if path = "good.yml" then some (.file "version: 1\npolicies: []\n".toUTF8.toList)
      else if path = "bad.yml" then some (.file "version: 2\n".toUTF8.toList)
      else none
    writeFault? := fun _ => none }

/-- A check of the two files and of one that is missing. -/
def mixedRequest : CheckRequest where
  files := ["good.yml", "bad.yml", "missing.yml"]
  isExhaustive := false
  isStrict := true
  runsTests := true
  format := .human

/-- The version is the reason that the check ends with, and not the missing file. -/
theorem mixedRequest_stops :
    (∃ path ∈ mixedRequest.files, ¬Passes mixedSetup true true path) ∧
      ∃ path, TurnsDown mixedSetup true true path (.policy "bad.yml" .invalidVersion) := by
  have rejects : ∃ path ∈ mixedRequest.files, ¬Passes mixedSetup true true path := by
    decide +kernel
  have result : (check mixedSetup mixedRequest).result =
      .error (.policy "bad.yml" .invalidVersion) := by
    decide +kernel
  obtain ⟨_, path, _, _, _, _, failure, failed, reasons, _⟩ := check_stops_first rfl rfl rejects
  cases result.symm.trans failed
  exact ⟨rejects, path, (reasons _).mpr rfl⟩

end ToolPolicy.Program
