import IntentGateway.Failure

/-! # Actions

An action may change a state, and ends with a result or a failure. A failure does not undo what has
been changed before it.
-/

namespace IntentGateway

/-- What may change a state and ends with a result or a failure. -/
abbrev Action (σ α : Type) := σ → Except Failure α × σ

namespace Action

variable {σ α β : Type}

/-- An action whose result is put into another form. -/
def map (f : α → β) (action : Action σ α) : Action σ β := fun s =>
  match action s with
  | (.ok a, s') => (.ok (f a), s')
  | (.error failure, s') => (.error failure, s')

/-- An action that goes on after its result. -/
def andThen (action : Action σ α) (next : α → Action σ β) : Action σ β := fun s =>
  match action s with
  | (.ok a, s') => next a s'
  | (.error failure, s') => (.error failure, s')

theorem map_fst (f : α → β) (action : Action σ α) (s : σ) :
    (action.map f s).1 = (action s).1.map f := by
  rw [map]
  rcases action s with ⟨_ | _, s'⟩ <;> rfl

/-- Putting a result into another form changes nothing else. -/
@[simp]
theorem map_snd (f : α → β) (action : Action σ α) (s : σ) :
    (action.map f s).2 = (action s).2 := by
  rw [map]
  rcases action s with ⟨_ | _, s'⟩ <;> rfl

/-- Nor does it hide or make a failure. -/
theorem map_eq_error_iff {f : α → β} {action : Action σ α} {s : σ} {failure : Failure} :
    (action.map f s).1 = .error failure ↔ (action s).1 = .error failure := by
  rw [map]
  rcases action s with ⟨_ | _, s'⟩
  · simp
  · simp

/-- What an action keeps, and then whatever goes on after it, is kept by both together. -/
theorem andThen_keeps {P : σ → Prop} {action : Action σ α} {next : α → Action σ β} {s : σ}
    (h : P (action s).2) (hnext : ∀ a s', P s' → P (next a s').2) :
    P (action.andThen next s).2 := by
  rw [andThen]
  rcases hs : action s with ⟨_ | a, s'⟩
  · rw [hs] at h
    exact h
  · rw [hs] at h
    exact hnext a s' h

end Action

end IntentGateway
