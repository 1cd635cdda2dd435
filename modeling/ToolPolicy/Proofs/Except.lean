import Mathlib.Data.List.Forall2

/-! Steps that can fail: what their results are made from. -/

namespace ToolPolicy

/-- Steps that can fail succeed together when each of them does. -/
theorem bind_eq_ok_iff {ε α β : Type} {x : Except ε α} {next : α → Except ε β} {b : β} :
    (x >>= next) = .ok b ↔ ∃ a, x = .ok a ∧ next a = .ok b := by
  cases x with
  | error fault => simp [bind, Except.bind]
  | ok a => simp [bind, Except.bind]

/-- A fault in other words is still one. -/
theorem mapError_eq_ok_iff {ε ε' α : Type} {x : Except ε α} {f : ε → ε'} {a : α} :
    x.mapError f = .ok a ↔ x = .ok a := by
  cases x with
  | error e => constructor <;> (intro found; cases found)
  | ok b => constructor <;> (intro found; cases found; rfl)

/-- Of two steps one fails, and the first one keeps the second one from being taken. -/
theorem bind_eq_error_iff {ε α β : Type} {x : Except ε α} {next : α → Except ε β} {e : ε} :
    (x >>= next) = .error e ↔ x = .error e ∨ ∃ a, x = .ok a ∧ next a = .error e := by
  cases x with
  | error fault => simp [bind, Except.bind]
  | ok a => simp [bind, Except.bind]

/-- A fault in other words is made of one. -/
theorem mapError_eq_error_iff {ε ε' α : Type} {x : Except ε α} {f : ε → ε'} {e' : ε'} :
    x.mapError f = .error e' ↔ ∃ e, x = .error e ∧ f e = e' := by
  cases x with
  | error e =>
    -- The fault that was put in other words is the one that the step has.
    constructor
    · intro found
      cases found
      exact ⟨e, rfl, rfl⟩
    · rintro ⟨_, found, rfl⟩
      cases found
      rfl
  | ok a =>
    constructor
    · intro found
      cases found
    · rintro ⟨_, found, _⟩
      cases found

/-- A result that was changed is the change of a result. -/
theorem exists_of_map {ε α β : Type} {x : Except ε α} {f : α → β} {b : β}
    (found : x.map f = .ok b) : ∃ a, x = .ok a ∧ f a = b := by
  cases x with
  | error e => cases found
  | ok a =>
    cases found
    exact ⟨a, rfl, rfl⟩

/-- A list of steps succeeds where each of them does, and their results stand in its order. -/
theorem mapM_eq_ok_iff {ε α β : Type} {f : α → Except ε β} {items : List α} {results : List β} :
    items.mapM f = .ok results ↔ List.Forall₂ (fun a b => f a = .ok b) items results := by
  -- The first result is that of the first step, and the others are those of the others.
  induction items generalizing results with
  | nil => cases results <;> simp [pure, Except.pure]
  | cons a rest ih =>
    rw [List.mapM_cons]
    simp only [bind_eq_ok_iff, ih]
    constructor
    · rintro ⟨first, made, others, later, same⟩
      cases same
      exact .cons made later
    · intro all
      cases all with
      | cons made later => exact ⟨_, made, _, later, rfl⟩

end ToolPolicy
