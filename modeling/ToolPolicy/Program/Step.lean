import ToolPolicy.Failure
import ToolPolicy.Log.Event

/-! Runs as values: what a run does to the world outside, and what comes of it. -/

namespace ToolPolicy.Program

/-- What a run does to the world outside. -/
inductive Effect where
  /-- A text for the standard output. -/
  | print (text : String)
  /-- A line for the standard error output. -/
  | report (line : String)
  | log (event : Log.Event)
  | write (path text : String)
deriving DecidableEq, Repr

/-- A step of a run. -/
@[ext]
structure Step (α : Type) where
  effects : List Effect
  result : Except Failure α

namespace Step

/-- A step without effects. -/
def ofResult {α : Type} (result : Except Failure α) : Step α := ⟨[], result⟩

def fail {α : Type} (failure : Failure) : Step α := ofResult (.error failure)

/-- A step that has one effect. -/
def act (effect : Effect) : Step Unit := ⟨[effect], .ok ()⟩

/-- A step that has some effects. -/
def actAll (effects : List Effect) : Step Unit := ⟨effects, .ok ()⟩

/-- A step after another one, unless that fails. -/
def andThen {α β : Type} (s : Step α) (next : α → Step β) : Step β :=
  match s.result with
  | .error failure => ⟨s.effects, .error failure⟩
  | .ok value => ⟨s.effects ++ (next value).effects, (next value).result⟩

instance : Monad Step where
  pure value := ofResult (.ok value)
  bind := andThen

/-- What comes of two steps is what comes of the second one, unless the first one fails. -/
theorem result_bind {α β : Type} (s : Step α) (next : α → Step β) :
    (s >>= next).result =
      match s.result with
      | .error failure => .error failure
      | .ok value => (next value).result := by
  simp only [bind, andThen]
  cases s.result <;> rfl

/-- The second of two steps has its effects after those of the first one, unless that fails. -/
theorem effects_bind {α β : Type} (s : Step α) (next : α → Step β) :
    (s >>= next).effects = s.effects ++
      match s.result with
      | .error _ => []
      | .ok value => (next value).effects := by
  simp only [bind, andThen]
  cases s.result <;> simp

/-- A step that fails is the last one. -/
theorem bind_of_error {s : Step Unit} {failure : Failure} (failed : s.result = .error failure)
    (next : Unit → Step Unit) : s >>= next = s := by
  apply Step.ext
  · rw [effects_bind, failed]
    exact List.append_nil _
  · rw [result_bind, failed]

/-- Steps in a row can be grouped in either way. -/
theorem bind_bind {α β γ : Type} (s : Step α) (next : α → Step β) (last : β → Step γ) :
    s >>= next >>= last = s >>= fun value => next value >>= last := by
  apply Step.ext
  · simp only [effects_bind, result_bind]
    cases s.result with
    | error failure => simp
    | ok value => simp [List.append_assoc]
  · simp only [result_bind]
    cases s.result <;> rfl

end Step

end ToolPolicy.Program
