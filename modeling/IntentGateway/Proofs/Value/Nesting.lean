import IntentGateway.Value.Basic
import Mathlib.Data.Nat.Notation

/-! # How often values are nested

Lists and maps are counted where a document is read or written. Where a value is shown, the
innermost value is counted too, whatever its kind, so that takes one level more.
-/

namespace IntentGateway.Value

/-- Whether a value is no list and no map. -/
def isScalar : Value → Bool
  | .list _ => false
  | .map _ => false
  | _ => true

/-- Whether lists and maps are nested so many times at most in a value. -/
inductive Within : ℕ → Value → Prop where
  | scalar {depth : ℕ} {v : Value} (h : v.isScalar = true) : Within depth v
  | list {depth : ℕ} {items : List Value} (h : ∀ item ∈ items, Within depth item) :
      Within (depth + 1) (.list items)
  | map {depth : ℕ} {entries : Entries} (h : ∀ entry ∈ entries, Within depth entry.2) :
      Within (depth + 1) (.map entries)

/-- Whether values of any kind are nested so many times at most in a value, itself counted. -/
inductive Layers : ℕ → Value → Prop where
  | scalar {depth : ℕ} {v : Value} (h : v.isScalar = true) : Layers (depth + 1) v
  | list {depth : ℕ} {items : List Value} (h : ∀ item ∈ items, Layers depth item) :
      Layers (depth + 1) (.list items)
  | map {depth : ℕ} {entries : Entries} (h : ∀ entry ∈ entries, Layers depth entry.2) :
      Layers (depth + 1) (.map entries)

variable {depth room : ℕ} {v : Value}

theorem isScalar_ofRaw (raw : RawText) : (ofRaw raw).isScalar = true := by
  cases raw <;> rfl

theorem within_ofRaw (raw : RawText) (depth : ℕ) : (ofRaw raw).Within depth :=
  .scalar (isScalar_ofRaw raw)

theorem Within.mono (h : v.Within depth) (hle : depth ≤ room) : v.Within room := by
  induction h generalizing room with
  | scalar h => exact .scalar h
  | list _ ih =>
    obtain ⟨room, rfl⟩ := Nat.exists_eq_add_of_lt hle
    exact .list fun item hmem => ih item hmem (by omega)
  | map _ ih =>
    obtain ⟨room, rfl⟩ := Nat.exists_eq_add_of_lt hle
    exact .map fun entry hmem => ih entry hmem (by omega)

/-- What is in a map is nested once less than the map. -/
theorem Within.of_find?_succ {entries : Entries} (h : (Value.map entries).Within (depth + 1))
    {key : String} (hv : entries.find? key = some v) : v.Within depth := by
  obtain ⟨entry, hmem, rfl⟩ := Option.map_eq_some_iff.mp hv
  cases h with
  | scalar h => cases h
  | map hentries => exact hentries entry (List.mem_of_find?_eq_some hmem)

theorem Within.of_find? {entries : Entries} (h : (Value.map entries).Within depth)
    {key : String} (hv : entries.find? key = some v) : v.Within depth :=
  (h.mono (Nat.le_succ depth)).of_find?_succ hv

theorem Within.getD_find? {entries : Entries} (h : (Value.map entries).Within depth)
    (key : String) : ((entries.find? key).getD .null).Within depth := by
  cases hfind : entries.find? key with
  | none => exact .scalar rfl
  | some v => exact h.of_find? hfind

/-- One level more than the lists and maps take is enough for what is in them too. -/
theorem Within.layers (h : v.Within depth) (hlt : depth < room) : v.Layers room := by
  induction h generalizing room with
  | scalar h =>
    obtain ⟨room, rfl⟩ := Nat.exists_eq_add_of_lt hlt
    exact .scalar h
  | list _ ih =>
    obtain ⟨room, rfl⟩ := Nat.exists_eq_add_of_lt hlt
    exact .list fun item hmem => ih item hmem (by omega)
  | map _ ih =>
    obtain ⟨room, rfl⟩ := Nat.exists_eq_add_of_lt hlt
    exact .map fun entry hmem => ih entry hmem (by omega)

theorem not_layers_zero : ¬ v.Layers 0 := by
  rintro ⟨⟩

theorem layers_list {items : List Value} :
    (Value.list items).Layers (depth + 1) ↔ ∀ item ∈ items, item.Layers depth :=
  ⟨fun | .scalar h => nomatch h | .list h => h, .list⟩

theorem layers_map {entries : Entries} :
    (Value.map entries).Layers (depth + 1) ↔ ∀ entry ∈ entries, entry.2.Layers depth :=
  ⟨fun | .scalar h => nomatch h | .map h => h, .map⟩

end IntentGateway.Value
