import ToolPolicy.Proofs.Except
import ToolPolicy.Proofs.Policy.Content
import ToolPolicy.Proofs.Program.Check
import ToolPolicy.Workspace.Directory

/-! Converting an export file: a run that fails leaves nothing behind, and one that succeeds brings
its text to one place. -/

namespace ToolPolicy.Program

/-! ### Effects that leave nothing behind -/

/-- Effects that are all events of the log. -/
def OnlyLogs (effects : List Effect) : Prop := ∀ e ∈ effects, ∃ event, e = .log event

/-- Without effects nothing is left behind. -/
theorem OnlyLogs.nil : OnlyLogs [] := fun e member => by cases member

/-- One event of the log leaves nothing behind. -/
theorem OnlyLogs.log (event : Log.Event) : OnlyLogs [.log event] :=
  fun _ member => ⟨event, List.mem_singleton.mp member⟩

/-- Parts that leave nothing behind make up such a whole. -/
theorem OnlyLogs.append {first second : List Effect} (before : OnlyLogs first)
    (after : OnlyLogs second) : OnlyLogs (first ++ second) :=
  List.forall_mem_append.mpr ⟨before, after⟩

/-- Nothing of the log goes to the standard output. -/
theorem OnlyLogs.output {effects : List Effect} (logs : OnlyLogs effects) :
    String.join (effects.map Effect.output) = "" := by
  refine Silent.output fun e member => ?_
  obtain ⟨event, rfl⟩ := logs e member
  rfl

/-- The log writes no files. -/
theorem OnlyLogs.written {effects : List Effect} (logs : OnlyLogs effects) :
    effects.filterMap Effect.written? = [] := by
  refine List.filterMap_eq_nil_iff.mpr fun e member => ?_
  obtain ⟨event, rfl⟩ := logs e member
  rfl

/-- Steps that leave nothing behind do not together. -/
theorem OnlyLogs.bind {α β : Type} {s : Step α} {next : α → Step β} (first : OnlyLogs s.effects)
    (second : ∀ a, OnlyLogs (next a).effects) : OnlyLogs (s >>= next).effects := by
  rw [Step.effects_bind]
  refine first.append ?_
  -- A step that is not reached has no effects.
  cases s.result with
  | error failure => exact .nil
  | ok a => exact second a

/-- A step that leaves nothing behind if it fails. -/
def FailsCleanly {α : Type} (s : Step α) : Prop :=
  ∀ failure, s.result = .error failure → OnlyLogs s.effects

/-- A step after one that leaves nothing behind fails as cleanly as it does by itself. -/
theorem FailsCleanly.bind {α β : Type} {s : Step α} {next : α → Step β} (first : OnlyLogs s.effects)
    (second : ∀ a, FailsCleanly (next a)) : FailsCleanly (s >>= next) := by
  intro failure failed
  rw [Step.result_bind] at failed
  rw [Step.effects_bind]
  -- The failure comes from the first step, or from the second one after it.
  cases reached : s.result with
  | error _ => exact first.append .nil
  | ok a =>
    rw [reached] at failed
    exact first.append (second a failure failed)

/-- After a step that succeeds come the effects of the next one. -/
theorem Step.effects_bind_of_ok {α β : Type} {s : Step α} {next : α → Step β} {a : α}
    (reached : s.result = .ok a) : (s >>= next).effects = s.effects ++ (next a).effects := by
  rw [Step.effects_bind, reached]

/-- Steps succeed together when each of them does. -/
theorem Step.result_bind_eq_ok_iff {α β : Type} {s : Step α} {next : α → Step β} {b : β} :
    (s >>= next).result = .ok b ↔ ∃ a, s.result = .ok a ∧ (next a).result = .ok b := by
  rw [Step.result_bind]
  cases s.result with
  | error failure => simp
  | ok a => simp

/-! ### The steps of a conversion -/

/-- Passing over records that are switched off is only logged. -/
theorem onlyLogs_passedOver (index : Nat) (records : List DashClaw.Record) :
    OnlyLogs (passedOver index records) := by
  -- The index grows along the records.
  induction records generalizing index with
  | nil => exact .nil
  | cons r rest ih =>
    rw [passedOver]
    -- A record that is on and one that is off are both gone past; the log ends where one fails.
    split
    · exact (OnlyLogs.log _).append (ih (index + 1))
    · split
      · exact ih (index + 1)
      · exact .nil

/-- Reading an export file is only logged. -/
theorem onlyLogs_recordsOfFile (w : Workspace) (path : String) :
    OnlyLogs (recordsOfFile w path).effects :=
  .bind .nil fun _ => .bind (.log _) fun _ => .nil

/-- Converting records is only logged. -/
theorem onlyLogs_convertRecords (records : List DashClaw.Record) (project : String) :
    OnlyLogs (convertRecords records project).effects :=
  .bind (onlyLogs_passedOver 0 records) fun _ => .bind .nil fun _ => .bind (.log _) fun _ => .nil

/-- A text that cannot be written leaves nothing behind. -/
theorem failsCleanly_deliver (w : Workspace) (document : PolicyDocument) (out : Option String)
    (text : String) : FailsCleanly (deliver w document out text) := by
  intro failure failed
  unfold deliver at failed ⊢
  split at failed
  · -- Printing does not fail.
    cases failed
  · split at failed
    -- A file that cannot be written is found out before anything is done.
    · exact .nil
    · cases failed

/-- The document that the export in a file is converted into. -/
def IsConverted (entry : Option Loader.FileEntry) (project : String) (document : PolicyDocument) :
    Prop :=
  ∃ bytes text records, entry = some (.file bytes) ∧ Utf8.decode bytes = .ok text ∧
    DashClaw.parseExport text = .ok records ∧
      DashClaw.convertPolicies records project = .ok document

/-- An export is converted into one document. -/
theorem IsConverted.unique {entry : Option Loader.FileEntry} {project : String}
    {first second : PolicyDocument} (one : IsConverted entry project first)
    (other : IsConverted entry project second) : first = second := by
  obtain ⟨bytes, text, records, rfl, decoded, parsed, converted⟩ := one
  obtain ⟨bytes', text', records', there, decoded', parsed', converted'⟩ := other
  -- Each step of the conversion has one result.
  cases there
  cases decoded.symm.trans decoded'
  cases parsed.symm.trans parsed'
  exact Except.ok.inj (converted.symm.trans converted')

/-- Only a file that holds a text has an export text. -/
theorem exportText_eq_ok_iff (w : Workspace) (path text : String) :
    exportText w path = .ok text ↔
      ∃ bytes, w.entry? path = some (.file bytes) ∧ Utf8.decode bytes = .ok text := by
  unfold exportText
  split
  · next bytes found => simp [mapError_eq_ok_iff, found]
  all_goals next found => simp [found]

/-- The records of an export file are those of its text. -/
theorem result_recordsOfFile_eq_ok_iff (w : Workspace) (path : String)
    (records : List DashClaw.Record) :
    (recordsOfFile w path).result = .ok records ↔
      ∃ text, exportText w path = .ok text ∧ DashClaw.parseExport text = .ok records := by
  simp [recordsOfFile, Step.result_bind_eq_ok_iff, Step.ofResult, Step.act, mapError_eq_ok_iff]

/-- The document of records is what they are converted into. -/
theorem result_convertRecords_eq_ok_iff (records : List DashClaw.Record) (project : String)
    (document : PolicyDocument) :
    (convertRecords records project).result = .ok document ↔
      DashClaw.convertPolicies records project = .ok document := by
  simp [convertRecords, Step.result_bind_eq_ok_iff, Step.ofResult, Step.act, Step.actAll, pure,
    mapError_eq_ok_iff]

/-- A text arrives unless the file for it cannot be written. -/
theorem result_deliver_eq_ok_iff (w : Workspace) (document : PolicyDocument) (out : Option String)
    (text : String) :
    (deliver w document out text).result = .ok () ↔
      ∀ path, out = some path → w.writeFault? path = none := by
  unfold deliver
  cases out with
  | none => simp [Step.act]
  | some path =>
    dsimp only
    cases barred : w.writeFault? path with
    | none => simp [Step.actAll, barred]
    | some fault => simp [Step.fail, Step.ofResult, barred]

/-! ### Whole conversions -/

/-- An invocation that converts the export in a file. -/
def ConvertsFile (i : Invocation) (path project : String) (out : Option String) : Prop :=
  ∃ url apiKey,
    i.command = .convert { input := some path, url, apiKey, project, out, isProbe := false }

/-- A text is at its place, and nothing anywhere else. -/
def Outcome.HasOnly (o : Outcome) (out : Option String) (text : String) : Prop :=
  match out with
  | none => o.output = text ∧ o.written = []
  | some path => o.output = "" ∧ o.written = [(path, text)]

/-- The steps of converting the export in a file. -/
def convertFile (w : Workspace) (path project : String) (out : Option String) : Step Unit := do
  let records ← recordsOfFile w path
  let document ← convertRecords records project
  let text ← Step.ofResult (render document out)
  deliver w document out text

/-- What is seen of such an invocation is what is seen of these steps. -/
theorem ConvertsFile.outcome_eq {i : Invocation} {path project : String} {out : Option String}
    (asked : ConvertsFile i path project out) (env : CommandLine.Environment) (isTerminal : Bool)
    (time : String) (w : Workspace) :
    outcomeOf env isTerminal time w i =
      (convertFile w path project out).outcome (loggingOf i env isTerminal) time := by
  obtain ⟨url, apiKey, command⟩ := asked
  rw [outcomeOf, command]
  rfl

/-- A conversion that fails leaves nothing behind. -/
theorem failsCleanly_convertFile (w : Workspace) (path project : String) (out : Option String) :
    FailsCleanly (convertFile w path project out) :=
  .bind (onlyLogs_recordsOfFile w path) fun records =>
    .bind (onlyLogs_convertRecords records project) fun document =>
      .bind .nil fun text => failsCleanly_deliver w document out text

/-- A conversion succeeds where the document is accepted and its text can be written. -/
theorem result_convertFile_eq_ok_iff (w : Workspace) (path project : String) (out : Option String) :
    (convertFile w path project out).result = .ok () ↔
      (∃ document, IsConverted (w.entry? path) project document ∧
        validatePolicy document.toNode = .ok ()) ∧
      ∀ path, out = some path → w.writeFault? path = none := by
  simp only [convertFile, Step.result_bind_eq_ok_iff, result_recordsOfFile_eq_ok_iff,
    result_convertRecords_eq_ok_iff, exportText_eq_ok_iff, result_deliver_eq_ok_iff]
  -- A document that is not accepted is not rendered, so that its check is part of the rendering.
  simp only [Step.ofResult, render_eq_ok_iff]
  -- On both sides the same facts are there, grouped by the steps or by the document.
  constructor
  · rintro ⟨records, ⟨text, ⟨bytes, found, decoded⟩, parsed⟩, document, converted, _,
      ⟨accepted, -⟩, writable⟩
    exact ⟨⟨document, ⟨bytes, text, records, found, decoded, parsed, converted⟩, accepted⟩,
      writable⟩
  · rintro ⟨⟨document, ⟨bytes, text, records, found, decoded, parsed, converted⟩, accepted⟩,
      writable⟩
    exact ⟨records, ⟨text, ⟨bytes, found, decoded⟩, parsed⟩, document, converted, _,
      ⟨accepted, rfl⟩, writable⟩

/-- A text that arrives after nothing but events of the log is all that is left behind. -/
theorem hasOnly_of_deliver {w : Workspace} {document : PolicyDocument} {out : Option String}
    {text : String} {s : Step Unit} {before : List Effect} (logs : OnlyLogs before)
    (arrived : (deliver w document out text).result = .ok ())
    (whole : s.effects = before ++ (deliver w document out text).effects)
    (logging : Option Logging) (time : String) : (s.outcome logging time).HasOnly out text := by
  -- The log adds nothing to the output or to the files, so that only the last step counts.
  have printed : (s.outcome logging time).output =
      String.join ((deliver w document out text).effects.map Effect.output) := by
    rw [Step.outcome, whole, List.map_append, String.join_append, logs.output, String.empty_append]
  have written : (s.outcome logging time).written =
      (deliver w document out text).effects.filterMap Effect.written? := by
    rw [Step.outcome, whole, List.filterMap_append, logs.written, List.nil_append]
  unfold Outcome.HasOnly
  rw [printed, written]
  -- A line of the log follows the text in a file, and nothing follows a text in print.
  cases out with
  | none => simp [deliver, Step.act, Effect.output, Effect.written?]
  | some path =>
    have free := (result_deliver_eq_ok_iff w document (some path) text).mp arrived path rfl
    simp [deliver, free, Step.actAll, fileEvent, Effect.output, Effect.written?]

/-- A conversion that succeeds brings the text of its document to its place. -/
theorem hasOnly_of_convertFile {w : Workspace} {path project : String} {out : Option String}
    (succeeded : (convertFile w path project out).result = .ok ()) :
    ∃ document, IsConverted (w.entry? path) project document ∧
      validatePolicy document.toNode = .ok () ∧
      ∀ logging time, ((convertFile w path project out).outcome logging time).HasOnly out
        (Yaml.write document.content) := by
  -- Every step of the conversion has succeeded and left its result.
  obtain ⟨records, read, rest⟩ := Step.result_bind_eq_ok_iff.mp succeeded
  obtain ⟨document, made, rest⟩ := Step.result_bind_eq_ok_iff.mp rest
  obtain ⟨text, rendered, arrived⟩ := Step.result_bind_eq_ok_iff.mp rest
  obtain ⟨accepted, rfl⟩ := (render_eq_ok_iff document out text).mp rendered
  obtain ⟨text, given, parsed⟩ := (result_recordsOfFile_eq_ok_iff w path records).mp read
  obtain ⟨bytes, found, decoded⟩ := (exportText_eq_ok_iff w path text).mp given
  have converted := (result_convertRecords_eq_ok_iff records project document).mp made
  refine ⟨document, ⟨bytes, text, records, found, decoded, parsed, converted⟩, accepted, ?_⟩
  -- Whatever comes before the text is brought to its place is only logged.
  have logs := (onlyLogs_recordsOfFile w path).append (onlyLogs_convertRecords records project)
  refine hasOnly_of_deliver logs arrived ?_
  rw [convertFile, Step.effects_bind_of_ok read, Step.effects_bind_of_ok made,
    Step.effects_bind_of_ok rendered, Step.ofResult, List.nil_append, List.append_assoc]

/-- No failure ends like a success. -/
theorem exitStatus_ne_success (failure : Failure) : failure.exitStatus ≠ .success := by
  cases failure with
  | load fault => cases fault <;> simp [Failure.exitStatus]
  | dashClaw fault =>
    rw [Failure.exitStatus, DashClawFault.exitStatus]
    split <;> simp
  | _ => simp [Failure.exitStatus]

/-- A run ends as a success exactly where it has no failure. -/
theorem statusOf_eq_success_iff (result : Except Failure Unit) :
    statusOf result = .success ↔ result = .ok () := by
  cases result with
  | error failure => simp [statusOf, exitStatus_ne_success]
  | ok done => simp [statusOf]

/--
Converting the export in a file leaves nothing behind if it fails, and its text at one place if it
succeeds.

The text is that of an accepted document, and depends on the export and the project alone. The
conversion succeeds where there is such a document and its text can be written.
-/
theorem fileConversion_delivers (entry : Option Loader.FileEntry) (project : String) :
    ∃ text, ∀ env isTerminal time w i path out, ConvertsFile i path project out →
      w.entry? path = entry →
      ((outcomeOf env isTerminal time w i).status ≠ .success →
        (outcomeOf env isTerminal time w i).output = "" ∧
          (outcomeOf env isTerminal time w i).written = []) ∧
      ((outcomeOf env isTerminal time w i).status = .success →
        (∃ document, IsConverted entry project document ∧
          validatePolicy document.toNode = .ok () ∧ text = Yaml.write document.content) ∧
        (outcomeOf env isTerminal time w i).HasOnly out text) ∧
      ((outcomeOf env isTerminal time w i).status = .success ↔
        (∃ document, IsConverted entry project document ∧
          validatePolicy document.toNode = .ok ()) ∧
        ∀ path, out = some path → w.writeFault? path = none) := by
  -- The document is settled before anything is known of where its text goes.
  obtain ⟨text, settled⟩ : ∃ text, ∀ document, IsConverted entry project document →
      text = Yaml.write document.content := by
    -- An export that is not converted has no text, so that any will do.
    by_cases converts : ∃ document, IsConverted entry project document
    · obtain ⟨document, converted⟩ := converts
      exact ⟨Yaml.write document.content, fun other again => by rw [converted.unique again]⟩
    · exact ⟨"", fun document converted => absurd ⟨document, converted⟩ converts⟩
  refine ⟨text, ?_⟩
  rintro env isTerminal time w i path out asked rfl
  rw [asked.outcome_eq]
  -- The status tells whether there was a failure.
  have ended : ((convertFile w path project out).outcome (loggingOf i env isTerminal) time).status =
      .success ↔ (convertFile w path project out).result = .ok () :=
    statusOf_eq_success_iff _
  refine ⟨fun failed => ?_, fun succeeded => ?_, ?_⟩
  · cases result : (convertFile w path project out).result with
    | ok done => exact absurd (ended.mpr result) failed
    | error failure =>
      have logs := failsCleanly_convertFile w path project out failure result
      exact ⟨logs.output, logs.written⟩
  · obtain ⟨document, converted, accepted, left⟩ := hasOnly_of_convertFile (ended.mp succeeded)
    have same := settled document converted
    refine ⟨⟨document, converted, accepted, same⟩, ?_⟩
    rw [same]
    exact left _ _
  · exact ended.trans (result_convertFile_eq_ok_iff w path project out)

/-- A directory with an export of one record. -/
def exportDirectory : Directory :=
  [(["export.json"], .file ("[\x7b\"id\":\"a\",\"policy_type\":\"x\"\x7d]".toList.map (·.toUInt8)))]

/-- The invocation that converts the export. -/
def exportInvocation (out : Option String) : Invocation where
  command := .convert {
    input := some "export.json", url := none, apiKey := none, project := "demo", out
    isProbe := false }
  verbosity := 0
  isQuiet := false
  color := .auto
  logFormat := .human

/-- What is seen of the invocation in the directory. -/
def exportOutcome (out : Option String) : Outcome :=
  outcomeOf [] false "" exportDirectory.workspace (exportInvocation out)

/-- The export has the same text in print and in a file, and where there is no directory for the
file nothing is left behind. -/
theorem exportOutcome_delivers :
    (∀ out, ConvertsFile (exportInvocation out) "export.json" "demo" out) ∧
    ∃ text,
      ((exportOutcome none).status = .success ∧ (exportOutcome none).HasOnly none text) ∧
      ((exportOutcome (some "guardrails.yml")).status = .success ∧
        (exportOutcome (some "guardrails.yml")).HasOnly (some "guardrails.yml") text) ∧
      ((exportOutcome (some "missing/guardrails.yml")).status = .outputFailed ∧
        (exportOutcome (some "missing/guardrails.yml")).output = "" ∧
        (exportOutcome (some "missing/guardrails.yml")).written = []) := by
  have asked (out : Option String) : ConvertsFile (exportInvocation out) "export.json" "demo" out :=
    ⟨none, none, rfl⟩
  have printed : (exportOutcome none).status = .success := by decide +kernel
  have written : (exportOutcome (some "guardrails.yml")).status = .success := by decide +kernel
  have failed : (exportOutcome (some "missing/guardrails.yml")).status = .outputFailed := by
    decide +kernel
  -- The text is one for all three requests, as they convert the same export.
  obtain ⟨text, delivers⟩ :=
    fileConversion_delivers (exportDirectory.workspace.entry? "export.json") "demo"
  have each (out : Option String) := delivers [] false "" exportDirectory.workspace
    (exportInvocation out) "export.json" out (asked out) rfl
  refine ⟨asked, text, ⟨printed, ((each none).2.1 printed).2⟩,
    ⟨written, ((each (some "guardrails.yml")).2.1 written).2⟩, failed, ?_⟩
  refine (each (some "missing/guardrails.yml")).1 fun succeeded => ?_
  cases failed.symm.trans succeeded

end ToolPolicy.Program
