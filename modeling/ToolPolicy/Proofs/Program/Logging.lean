import ToolPolicy.Program.Basic
import ToolPolicy.Proofs.CommandLine.Talk
import ToolPolicy.Workspace.Directory

/-! Logging keeps the outcome of a run: only lines of events come and go. -/

namespace ToolPolicy.Program

/-- A part of the standard error output: what a run has to tell, or the line of an event. -/
inductive Passage where
  | told (text : String)
  | logged (event : Log.Event) (line : String)
deriving DecidableEq, Repr

namespace Passage

/-- A passage as it stands on the output, with the end of its line. -/
def text : Passage → String
  | told text => text
  | logged _ line => line ++ "\n"

/-- Whether a passage is no log output. -/
def isTold : Passage → Bool
  | told _ => true
  | logged _ _ => false

/-- The text of passages one after the other. -/
def textOf (passages : List Passage) : String := String.join (passages.map text)

/-- Passages without the log output. -/
def withoutLog (passages : List Passage) : List Passage := passages.filter isTold

/-- Texts follow one another as their passages do. -/
theorem textOf_append (passages more : List Passage) :
    textOf (passages ++ more) = textOf passages ++ textOf more := by
  simp [textOf]

/-- The log is left out of each part of passages. -/
theorem withoutLog_append (passages more : List Passage) :
    withoutLog (passages ++ more) = withoutLog passages ++ withoutLog more :=
  List.filter_append ..

end Passage

open Passage (textOf withoutLog)

/-- What an effect has on the standard error output. -/
def Effect.passages (logging : Option Logging) (time : String) : Effect → List Passage
  | report line => [.told (line ++ "\n")]
  | log event => (logging.bind (·.line? time event)).toList.map (.logged event)
  | print _ | write _ _ => []

/-- What a step has on the standard error output. -/
def Step.passages (logging : Option Logging) (time : String) (s : Step Unit) : List Passage :=
  s.effects.flatMap (Effect.passages logging time) ++ [.told (failureText s.result)]

/-- What an effect has on the standard error output is the text of its passages. -/
theorem Effect.textOf_passages (logging : Option Logging) (time : String) (e : Effect) :
    textOf (e.passages logging time) = e.errorOutput logging time := by
  cases e with
  | log event =>
    rw [Effect.passages, Effect.errorOutput]
    cases logging.bind (·.line? time event) <;> simp [textOf, Passage.text]
  | _ => simp [Effect.passages, Effect.errorOutput, textOf, Passage.text]

/-- The standard error output is made of the passages of a step. -/
theorem Step.textOf_passages (logging : Option Logging) (time : String) (s : Step Unit) :
    textOf (s.passages logging time) = (s.outcome logging time).errorOutput := by
  -- A failure is told behind everything else, and each effect has its own passages.
  have effects : ∀ effects : List Effect,
      textOf (effects.flatMap (Effect.passages logging time)) =
        String.join (effects.map (Effect.errorOutput logging time)) := by
    intro effects
    induction effects with
    | nil => rfl
    | cons e rest ih =>
      rw [List.flatMap_cons, Passage.textOf_append, Effect.textOf_passages, ih]
      simp
  rw [Step.passages, Passage.textOf_append, effects]
  simp [textOf, Passage.text, Step.outcome]

/-- How a run logs makes no difference to what it has to tell. -/
theorem Step.withoutLog_passages (logging : Option Logging) (time : String) (s : Step Unit) :
    withoutLog (s.passages logging time) = s.passages none "" := by
  -- Only an event depends on the logging, and its line is left out.
  have one : ∀ e : Effect, withoutLog (e.passages logging time) = e.passages none "" := by
    intro e
    cases e with
    | log event =>
      simp [Effect.passages, withoutLog, Passage.isTold]
    | _ => rfl
  have effects : ∀ effects : List Effect,
      withoutLog (effects.flatMap (Effect.passages logging time)) =
        effects.flatMap (Effect.passages none "") := by
    intro effects
    induction effects with
    | nil => rfl
    | cons e rest ih =>
      rw [List.flatMap_cons, Passage.withoutLog_append, one, ih, List.flatMap_cons]
  rw [Step.passages, Passage.withoutLog_append, effects]
  rfl

/-- Log output is made of the lines of the events of a step that are logged. -/
theorem Step.log_of_logged {logging : Option Logging} {time : String} {s : Step Unit}
    {event : Log.Event} {line : String} (member : .logged event line ∈ s.passages logging time) :
    .log event ∈ s.effects ∧ logging.bind (·.line? time event) = some line := by
  -- The line comes from an effect, for a failure is told and not logged.
  rw [Step.passages, List.mem_append, List.mem_flatMap] at member
  rcases member with ⟨e, among, own⟩ | failure
  · cases e with
    | log event' =>
      obtain ⟨line', written, same⟩ := List.mem_map.mp own
      cases same
      exact ⟨among, by simpa using written⟩
    -- What is reported or printed is no log output.
    | report line' => simp [Effect.passages] at own
    | _ => cases own
  · simp at failure

/-! ### Runs -/

/-- What a run starts from beside its files. -/
structure Start where
  env : CommandLine.Environment
  invocation : Invocation
  isTerminal : Bool
  time : String

namespace Start

/-- What is seen of a run. -/
def outcome (s : Start) (w : Workspace) : Outcome :=
  outcomeOf s.env s.isTerminal s.time w s.invocation

/-- How a run logs, if it does. -/
def logging (s : Start) : Option Logging := loggingOf s.invocation s.env s.isTerminal

/-- What a run has on the standard error output. -/
def passages (s : Start) (w : Workspace) : List Passage :=
  (run (setupOf s.env w) s.invocation.command).passages s.logging s.time

/-- The standard error output of a run falls into what a run without log has on it and the lines of
events that are logged. -/
structure Splits (s : Start) (w : Workspace) : Prop where
  whole : textOf (s.passages w) = (s.outcome w).errorOutput
  quiet : textOf (withoutLog (s.passages w)) =
    (quietOutcomeOf s.env w s.invocation).errorOutput
  logged : ∀ event line, .logged event line ∈ s.passages w →
    s.logging.bind (·.line? s.time event) = some line

/-- Every run has its standard error output in these two parts. -/
theorem splits (s : Start) (w : Workspace) : s.Splits w where
  whole := Step.textOf_passages ..
  quiet := by
    rw [passages, Step.withoutLog_passages, Step.textOf_passages]
    rfl
  logged _ _ member := (Step.log_of_logged member).2

end Start

/-- Two runs over the same files that differ in their log output only. -/
structure EqualButLog (w : Workspace) (s₁ s₂ : Start) : Prop where
  status : (s₁.outcome w).status = (s₂.outcome w).status
  output : (s₁.outcome w).output = (s₂.outcome w).output
  written : (s₁.outcome w).written = (s₂.outcome w).written
  splits₁ : s₁.Splits w
  splits₂ : s₂.Splits w
  withoutLog : withoutLog (s₁.passages w) = withoutLog (s₂.passages w)

/-- Runs of the same command differ in their log output only. -/
theorem equalButLog_of_command_eq {s₁ s₂ : Start}
    (command : s₁.invocation.command = s₂.invocation.command)
    (limit : s₁.env.value? Loader.limitVariable = s₂.env.value? Loader.limitVariable)
    (w : Workspace) : EqualButLog w s₁ s₂ := by
  -- A run gets to see the command, the limit and the files, and nothing else.
  have same : run (setupOf s₁.env w) s₁.invocation.command =
      run (setupOf s₂.env w) s₂.invocation.command := by
    rw [setupOf, setupOf, limit, command]
  refine ⟨?_, ?_, ?_, s₁.splits w, s₂.splits w, ?_⟩
  · rw [Start.outcome, Start.outcome, outcomeOf, outcomeOf, same]
    rfl
  · rw [Start.outcome, Start.outcome, outcomeOf, outcomeOf, same]
    rfl
  · rw [Start.outcome, Start.outcome, outcomeOf, outcomeOf, same]
    rfl
  · rw [Start.passages, Start.passages, Step.withoutLog_passages, Step.withoutLog_passages, same]

/-- The variables that say how a run talks. -/
def talkVariables : List String :=
  [CommandLine.colorVariable, filterVariable, plainVariable]

/-- Accepted command lines that differ in options about talk only, with variables that differ in
those about talk only, have the same outcome but for the log. -/
theorem logging_keeps_outcome {env₁ env₂ : CommandLine.Environment}
    (elsewhere : ∀ key, key ∉ talkVariables → env₁.value? key = env₂.value? key)
    {words₁ words₂ kept : List String} (strips₁ : CommandLine.Strips words₁ kept)
    (strips₂ : CommandLine.Strips words₂ kept) {i₁ i₂ : Invocation}
    (accepted₁ : CommandLine.parse env₁ words₁ = .ok i₁)
    (accepted₂ : CommandLine.parse env₂ words₂ = .ok i₂) :
    i₁.command = i₂.command ∧
      ∀ (w : Workspace) (isTerminal₁ isTerminal₂ : Bool) (time₁ time₂ : String),
        EqualButLog w ⟨env₁, i₁, isTerminal₁, time₁⟩ ⟨env₂, i₂, isTerminal₂, time₂⟩ := by
  -- The variables about talk are not those that stand in for settings of a command.
  have own : ∀ key ∈ CommandLine.ownVariables, env₁.value? key = env₂.value? key := by
    intro key member
    apply elsewhere
    revert key
    decide
  have command := CommandLine.command_eq_of_strips own strips₁ strips₂ accepted₁ accepted₂
  have limit := elsewhere Loader.limitVariable (by decide)
  exact ⟨command, fun w _ _ _ _ => equalButLog_of_command_eq command limit w⟩

/-- A plain check of a file, followed in detail. -/
def followedCheck : Invocation :=
  ⟨.validate ⟨["p.yaml"], false, false, false, .human⟩, 2, false, .never, .json⟩

/-- The same check without any log. -/
def quietCheck : Invocation :=
  ⟨.validate ⟨["p.yaml"], false, false, false, .human⟩, 0, true, .auto, .human⟩

/-- Variables that ask for all events, without colors. -/
def followingVariables : CommandLine.Environment :=
  [(filterVariable, "trace"), (plainVariable, "1")]

/-- A directory with an empty file. -/
def emptyFile : Workspace := Directory.workspace [(["p.yaml"], .file [])]

open CommandLine (Strips Talk) in
/-- A check that is followed in detail does what a quiet one does. -/
theorem followedCheck_keeps_outcome :
    CommandLine.parse followingVariables
        ["-vv", "validate", "--color", "never", "p.yaml", "--log-format=json"] =
      .ok followedCheck ∧
    CommandLine.parse [] ["validate", "p.yaml", "-q"] = .ok quietCheck ∧
    EqualButLog emptyFile ⟨followingVariables, followedCheck, true, "now"⟩
      ⟨[], quietCheck, false, "then"⟩ := by
  have followed : CommandLine.parse followingVariables
      ["-vv", "validate", "--color", "never", "p.yaml", "--log-format=json"] =
        .ok followedCheck := by rfl
  have quiet : CommandLine.parse [] ["validate", "p.yaml", "-q"] = .ok quietCheck := by rfl
  -- The filter and the colors are all that differs between the variables.
  have elsewhere : ∀ key, key ∉ talkVariables →
      followingVariables.value? key = CommandLine.Environment.value? [] key := by
    intro key other
    simp only [talkVariables, List.mem_cons, not_or] at other
    have unfiltered : (key == filterVariable) = false := by simpa using other.2.1
    have colorful : (key == plainVariable) = false := by simpa using other.2.2.1
    simp [followingVariables, CommandLine.Environment.value?, List.lookup_cons, unfiltered,
      colorful]
  -- In both lines the words about talk are taken out one by one.
  have detailed : Talk ["-vv"] :=
    .cluster ['v', 'v'] (by decide) (by simp [CommandLine.IsTalkLetter])
  have silent : Talk ["-q"] := .cluster ['q'] (by decide) (by simp [CommandLine.IsTalkLetter])
  have followedStrips : Strips
      ["-vv", "validate", "--color", "never", "p.yaml", "--log-format=json"]
      ["validate", "p.yaml"] :=
    .talk detailed (.keep (by decide) (.talk (.color .never)
      (.keep (by decide) (.talk (.logFormatEquals .json) .nil))))
  have quietStrips : Strips ["validate", "p.yaml", "-q"] ["validate", "p.yaml"] :=
    .keep (by decide) (.keep (by decide) (.talk silent .nil))
  obtain ⟨-, equal⟩ := logging_keeps_outcome elsewhere followedStrips quietStrips followed quiet
  exact ⟨followed, quiet, equal ..⟩

end ToolPolicy.Program
