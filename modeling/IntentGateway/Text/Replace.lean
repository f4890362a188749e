/-! # Replacing parts of a text -/

namespace IntentGateway.Text

/-- What is behind a beginning, if the sequence begins so. -/
def dropStart? {α : Type} [DecidableEq α] : List α → List α → Option (List α)
  | [], rest => some rest
  | _ :: _, [] => none
  | a :: start, b :: rest => if a = b then dropStart? start rest else none

/-- A beginning is dropped exactly from what it begins. -/
theorem dropStart?_eq_some_iff {α : Type} [DecidableEq α] {start sequence rest : List α} :
    dropStart? start sequence = some rest ↔ sequence = start ++ rest := by
  induction start generalizing sequence with
  | nil => simp [dropStart?]
  | cons a start ih =>
    cases sequence with
    | nil => simp [dropStart?]
    | cons b sequence =>
      simp only [dropStart?]
      split
      · rename_i h
        subst h
        simp [ih]
      · rename_i h
        simp [Ne.symm h]

/-- Replaces what the text begins with. -/
def replaceStart (start replacement text : List Char) : List Char :=
  match dropStart? start text with
  | some rest => replacement ++ rest
  | none => text

/-- Replaces every occurrence of a part, from the left and without overlap. While `skipping`
characters of an occurrence are left, they are dropped. -/
def replaceFrom (part replacement : List Char) : Nat → List Char → List Char
  | _, [] => []
  | skipping + 1, _ :: text => replaceFrom part replacement skipping text
  | 0, c :: text =>
    if (dropStart? part (c :: text)).isSome then
      replacement ++ replaceFrom part replacement (part.length - 1) text
    else c :: replaceFrom part replacement 0 text

/-- Replaces every occurrence of a part that is not empty. -/
def replaceAll (part replacement text : List Char) : List Char :=
  replaceFrom part replacement 0 text

end IntentGateway.Text
