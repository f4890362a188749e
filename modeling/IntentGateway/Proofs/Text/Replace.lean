import IntentGateway.Text.Replace
import Mathlib.Data.List.Infix

/-! # Replacing behind a beginning

What replacing makes of a text is put together from what it makes of parts of it. An occurrence at
the beginning is replaced, and a beginning that no occurrence of the part reaches into stays as it
is; both times what follows is treated as a text of its own.
-/

namespace IntentGateway.Text

/-! ## Beginnings -/

theorem isSome_dropStart?_iff {α : Type} [DecidableEq α] {start sequence : List α} :
    (dropStart? start sequence).isSome = true ↔ start <+: sequence := by
  simp only [Option.isSome_iff_exists, dropStart?_eq_some_iff]
  exact exists_congr fun rest => eq_comm

theorem replaceStart_append (start replacement rest : List Char) :
    replaceStart start replacement (start ++ rest) = replacement ++ rest := by
  rw [replaceStart, dropStart?_eq_some_iff.mpr rfl]

theorem replaceStart_of_not_prefix {start text : List Char} (h : ¬ start <+: text)
    (replacement : List Char) : replaceStart start replacement text = text := by
  rw [replaceStart]
  cases hdrop : dropStart? start text with
  | none => rfl
  | some rest => exact absurd (isSome_dropStart?_iff.mp (by rw [hdrop]; rfl)) h

/-- Neither of two texts begins with the other. -/
def Diverge (text other : List Char) : Prop :=
  ¬ text <+: other ∧ ¬ other <+: text

instance (text other : List Char) : Decidable (Diverge text other) :=
  inferInstanceAs (Decidable (_ ∧ _))

/-- What diverges from a text is no beginning of it, whatever follows. -/
theorem Diverge.not_prefix_append {text other : List Char} (h : Diverge text other)
    (rest : List Char) : ¬ text <+: other ++ rest := by
  intro hprefix
  obtain hless | hmore := List.prefix_or_prefix_of_prefix hprefix (List.prefix_append other rest)
  · exact h.1 hless
  · exact h.2 hmore

/-! ## Every occurrence -/

variable {part : List Char} (replacement : List Char)

/-- The rest of an occurrence is dropped. -/
theorem replaceFrom_length_append (skipped text : List Char) :
    replaceFrom part replacement skipped.length (skipped ++ text)
      = replaceFrom part replacement 0 text := by
  induction skipped with
  | nil => rfl
  | cons c skipped ih => exact ih

/-- An occurrence at the beginning is replaced. -/
theorem replaceAll_part_append (h : part ≠ []) (text : List Char) :
    replaceAll part replacement (part ++ text)
      = replacement ++ replaceAll part replacement text := by
  obtain ⟨c, rest, rfl⟩ := List.exists_cons_of_ne_nil h
  have hbegins : (dropStart? (c :: rest) (c :: (rest ++ text))).isSome = true :=
    isSome_dropStart?_iff.mpr (List.prefix_append _ _)
  rw [replaceAll, List.cons_append, replaceFrom, if_pos hbegins, List.length_cons,
    Nat.add_sub_cancel, replaceFrom_length_append, replaceAll]

/-- No occurrence of the part begins in a text, whatever follows it. -/
def Lacks (part text : List Char) : Prop :=
  ∀ rest ∈ text.tails, rest ≠ [] → Diverge part rest

instance (part text : List Char) : Decidable (Lacks part text) :=
  inferInstanceAs (Decidable (∀ rest ∈ text.tails, rest ≠ [] → Diverge part rest))

/-- A beginning that lacks the part stays as it is. -/
theorem replaceAll_append_of_lacks {front : List Char} (h : Lacks part front) (text : List Char) :
    replaceAll part replacement (front ++ text)
      = front ++ replaceAll part replacement text := by
  induction front with
  | nil => rfl
  | cons c front ih =>
    have hhere : Diverge part (c :: front) := h (c :: front) (by simp) (by simp)
    have hlater : Lacks part front := fun rest hrest =>
      h rest (List.tails_cons c front ▸ List.mem_cons_of_mem _ hrest)
    have hnot : ¬ (dropStart? part (c :: (front ++ text))).isSome = true := fun hbegins =>
      hhere.not_prefix_append text (isSome_dropStart?_iff.mp hbegins)
    rw [replaceAll, List.cons_append, replaceFrom, if_neg hnot]
    exact congrArg (c :: ·) (ih hlater)

end IntentGateway.Text
