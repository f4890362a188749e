import IntentGateway.Schema.Issue

/-! # Checked results

A checked result is a value, or the issues that were found. Results are combined without stopping at
the first issue: the issues of the parts follow one another in the order of the parts.
-/

namespace IntentGateway.Schema

/-- A value, or the issues found instead. -/
inductive Checked (α : Type) where
  | valid (a : α)
  | invalid (issues : List Issue)
  deriving Repr

namespace Checked

/-- Applies a function to the value. -/
def map {α β : Type} (f : α → β) : Checked α → Checked β
  | .valid a => .valid (f a)
  | .invalid issues => .invalid issues

/-- Combines two results; the issues of both are kept. -/
def both {α β γ : Type} (f : α → β → γ) : Checked α → Checked β → Checked γ
  | .valid a, .valid b => .valid (f a b)
  | .valid _, .invalid issues => .invalid issues
  | .invalid issues, .valid _ => .invalid issues
  | .invalid issues, .invalid more => .invalid (issues ++ more)

instance : Functor Checked where
  map := Checked.map

instance : Pure Checked where
  pure := Checked.valid

instance : Seq Checked where
  seq f a := both (fun g b => g b) f (a ())

/-- The result as seen from outside the part that a segment leads to. -/
def under {α : Type} (segment : Segment) : Checked α → Checked α
  | .valid a => .valid a
  | .invalid issues => .invalid (issues.map (Issue.under segment))

/-- Goes on with the value, if there is one. -/
def andThen {α β : Type} (result : Checked α) (next : α → Checked β) : Checked β :=
  match result with
  | .valid a => next a
  | .invalid issues => .invalid issues

/-- One issue with the value itself. -/
def fault {α : Type} (cause : Fault) (input : Value) : Checked α :=
  .invalid [⟨cause, [], input⟩]

/-- The results of a list with their positions. -/
def ofList {α : Type} : Nat → List (Checked α) → Checked (List α)
  | _, [] => .valid []
  | i, result :: results => both List.cons (result.under (.index i)) (ofList (i + 1) results)

end Checked

/-- How a value of unknown kind becomes one of a known type. -/
abbrev Decoder (α : Type) := Value → Checked α

end IntentGateway.Schema
