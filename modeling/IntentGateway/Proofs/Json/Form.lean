import IntentGateway.Json.Writer
import IntentGateway.Proofs.Value.Shown
import Mathlib.Logic.Basic

/-! # Values with a JSON form

A value has a JSON form exactly if each of its parts has: its integers have few enough digits, its
other numbers are finite, its strings and keys are texts, there are no bytes in it, and lists and
maps are nested no more often than there is room. What is in a list or a map has one level less.
-/

namespace IntentGateway.Json

attribute [simp] writeWithin writeItems writeEntries

/-- Whether a value can be written where so many lists and maps may be nested. -/
def HasForm (room : ℕ) (v : Value) : Prop :=
  ∃ text, writeWithin false room v = .ok text

instance (room : ℕ) (v : Value) : Decidable (HasForm room v) :=
  match h : writeWithin false room v with
  | .ok text => isTrue ⟨text, h⟩
  | .error e => isFalse fun ⟨text, h'⟩ => by
    rw [h] at h'
    cases h'

variable {room : ℕ}

/-! ## Scalars -/

theorem hasForm_null : HasForm room .null :=
  ⟨_, by rw [writeWithin]⟩

theorem hasForm_bool (b : Bool) : HasForm room (.bool b) :=
  ⟨_, by rw [writeWithin]⟩

theorem hasForm_str (s : String) : HasForm room (.str s) :=
  ⟨_, by rw [writeWithin]⟩

/-- An integer is written if it has few enough digits. -/
theorem hasForm_int {n : Int} : HasForm room (.int n) ↔ Numeral.fits n = true := by
  cases h : Numeral.fits n <;> simp [HasForm, h]

/-- A floating-point number is written if it is finite. -/
theorem hasForm_float {x : Binary64} : HasForm room (.float x) ↔ x.toRat?.isSome = true := by
  cases h : x.toRat?.isSome <;> simp [HasForm, h]

theorem not_hasForm_illFormed (points : List Text.Point) : ¬ HasForm room (.illFormed points) := by
  simp [HasForm, writeRaw]

/-- A string is written if it is a text. -/
theorem hasForm_ofRaw {raw : RawText} : HasForm room (.ofRaw raw) ↔ ∃ s, raw = .text s := by
  cases raw with
  | text s => simpa [Value.ofRaw] using hasForm_str s
  | illFormed points => simpa [Value.ofRaw] using not_hasForm_illFormed points

theorem hasForm_ofOption {α : Type} {encode : α → Value} {given : Option α}
    (h : ∀ a, given = some a → HasForm room (encode a)) :
    HasForm room (.ofOption encode given) := by
  cases given with
  | none => exact hasForm_null
  | some a => exact h a rfl

/-! ## Lists and maps -/

/-- Two parts are written if each of them is. -/
theorem joined_eq_ok_iff {join : List Char → List Char → List Char}
    {first second : Except Unwritable (List Char)} {text : List Char} :
    joined join first second = .ok text
      ↔ ∃ a b, first = .ok a ∧ second = .ok b ∧ join a b = text := by
  cases first with
  | ok a => cases second <;> simp [joined]
  | error e => cases e <;> cases second <;> simp [joined]

theorem exists_joined_eq_ok_iff {join : List Char → List Char → List Char}
    {first second : Except Unwritable (List Char)} :
    (∃ text, joined join first second = .ok text)
      ↔ (∃ a, first = .ok a) ∧ ∃ b, second = .ok b := by
  simp only [joined_eq_ok_iff]
  constructor
  · rintro ⟨_, a, b, ha, hb, _⟩
    exact ⟨⟨a, ha⟩, b, hb⟩
  · rintro ⟨⟨a, ha⟩, b, hb⟩
    exact ⟨_, a, b, ha, hb, rfl⟩

theorem writeItems_eq_ok {items : List Value} :
    (∃ text, writeItems false room items = .ok text) ↔ ∀ item ∈ items, HasForm room item := by
  induction items with
  | nil => simp
  | cons item items ih =>
    rw [writeItems, exists_joined_eq_ok_iff, List.forall_mem_cons, ← ih, HasForm]

theorem not_hasForm_list_zero (items : List Value) : ¬ HasForm 0 (.list items) := by
  simp [HasForm]

/-- A list is written if its items are. -/
theorem hasForm_list {items : List Value} :
    HasForm (room + 1) (.list items) ↔ ∀ item ∈ items, HasForm room item := by
  rw [← writeItems_eq_ok, HasForm, writeWithin, exists_map_eq_ok_iff]

/-- Whether an entry of a map can be written: its key is a text and its value is written. -/
def EntryHasForm (room : ℕ) (entry : RawText × Value) : Prop :=
  (∃ s, entry.1 = .text s) ∧ HasForm room entry.2

theorem entryHasForm_text {s : String} {v : Value} (h : HasForm room v) :
    EntryHasForm room (.text s, v) :=
  ⟨⟨s, rfl⟩, h⟩

theorem writeEntries_eq_ok {entries : List (RawText × Value)} :
    (∃ text, writeEntries false room entries = .ok text)
      ↔ ∀ entry ∈ entries, EntryHasForm room entry := by
  induction entries with
  | nil => simp
  | cons entry entries ih =>
    obtain ⟨key, v⟩ := entry
    have hkey : (∃ a, writeRaw key = .ok a) ↔ ∃ s, key = .text s := by
      cases key <;> simp [writeRaw]
    rw [writeEntries, exists_joined_eq_ok_iff, exists_joined_eq_ok_iff, List.forall_mem_cons, ← ih,
      hkey, EntryHasForm, HasForm]

theorem not_hasForm_map_zero (entries : Value.Entries) : ¬ HasForm 0 (.map entries) := by
  simp [HasForm]

/-- A map is written if its entries are. -/
theorem hasForm_map {entries : Value.Entries} :
    HasForm (room + 1) (.map entries) ↔ ∀ entry ∈ entries, EntryHasForm room entry := by
  rw [← writeEntries_eq_ok, HasForm, writeWithin, exists_map_eq_ok_iff]

/-! ## Room -/

/-- What can be written is nested no more often than there is room. -/
theorem HasForm.within {v : Value} (h : HasForm room v) : v.Within room := by
  induction room generalizing v with
  | zero =>
    cases v with
    | list items => exact absurd h (not_hasForm_list_zero items)
    | map entries => exact absurd h (not_hasForm_map_zero entries)
    | _ => exact .scalar rfl
  | succ room ih =>
    cases v with
    | list items => exact .list fun item hmem => ih (hasForm_list.mp h item hmem)
    | map entries => exact .map fun entry hmem => ih (hasForm_map.mp h entry hmem).2
    | _ => exact .scalar rfl

/-- What can be written somewhere can be written wherever there is room for it. -/
theorem HasForm.of_within {depth : ℕ} {v : Value} (h : HasForm depth v) (hv : v.Within room) :
    HasForm room v := by
  induction hv generalizing depth with
  | @scalar _ v hscalar =>
    cases v with
    | list items => cases hscalar
    | map entries => cases hscalar
    | _ => exact h
  | list _ ih =>
    cases depth with
    | zero => exact absurd h (not_hasForm_list_zero _)
    | succ depth =>
      exact hasForm_list.mpr fun item hmem => ih item hmem (hasForm_list.mp h item hmem)
  | map _ ih =>
    cases depth with
    | zero => exact absurd h (not_hasForm_map_zero _)
    | succ depth =>
      refine hasForm_map.mpr fun entry hmem => ?_
      obtain ⟨htext, hform⟩ := hasForm_map.mp h entry hmem
      exact ⟨htext, ih entry hmem hform⟩

/-- Wherever there is room for a value, it can be written there as well as anywhere. -/
theorem hasForm_iff_of_within {depth : ℕ} {v : Value} (hdepth : v.Within depth)
    (hroom : v.Within room) : HasForm depth v ↔ HasForm room v :=
  ⟨fun h => h.of_within hroom, fun h => h.of_within hdepth⟩

/-- More room is enough too. -/
theorem HasForm.mono {depth : ℕ} {v : Value} (h : HasForm depth v) (hle : depth ≤ room) :
    HasForm room v :=
  h.of_within (h.within.mono hle)

/-- What is in a list that can be written can be written there too. -/
theorem HasForm.of_mem_list {items : List Value} (h : HasForm room (.list items)) {item : Value}
    (hmem : item ∈ items) : HasForm room item := by
  cases room with
  | zero => exact absurd h (not_hasForm_list_zero items)
  | succ room => exact (hasForm_list.mp h item hmem).mono (Nat.le_succ room)

theorem HasForm.of_mem_map {entries : Value.Entries} (h : HasForm room (.map entries))
    {entry : RawText × Value} (hmem : entry ∈ entries) : HasForm room entry.2 := by
  cases room with
  | zero => exact absurd h (not_hasForm_map_zero entries)
  | succ room => exact (hasForm_map.mp h entry hmem).2.mono (Nat.le_succ room)

/-- Whether a value can be written as a document of its own. -/
def Writable [Nesting] (v : Value) : Prop :=
  ∃ text, write v = .ok text

theorem writable_iff [Nesting] {v : Value} : Writable v ↔ HasForm Nesting.written v :=
  Iff.rfl

end IntentGateway.Json
