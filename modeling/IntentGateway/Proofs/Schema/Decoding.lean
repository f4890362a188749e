import IntentGateway.Schema.Record
import Mathlib.Data.List.Basic

/-! # What decoders accept and report

A record is accepted when each of its fields is, and then holds what the fields gave. Otherwise
issues are reported: those of the fields that are there, seen from outside, and missing fields. A
property of issues is carried from the fields to the record.
-/

namespace IntentGateway.Schema

namespace Checked

variable {α β γ : Type}

/-! ## Accepted values -/

theorem both_eq_valid {f : α → β → γ} {a : Checked α} {b : Checked β} {c : γ} :
    both f a b = .valid c ↔ ∃ x y, a = .valid x ∧ b = .valid y ∧ f x y = c := by
  cases a <;> cases b <;> simp [both]

theorem seq_eq_valid {f : Checked (α → β)} {a : Checked α} {b : β} :
    (f <*> a) = .valid b ↔ ∃ g x, f = .valid g ∧ a = .valid x ∧ g x = b :=
  both_eq_valid

theorem map_eq_valid {f : α → β} {a : Checked α} {b : β} :
    (f <$> a) = .valid b ↔ ∃ x, a = .valid x ∧ f x = b := by
  change Checked.map f a = .valid b ↔ _
  cases a <;> simp [Checked.map]

/-- What is done with a combined result can be done with the function before. -/
theorem map_seq (g : β → γ) (f : Checked (α → β)) (a : Checked α) :
    (f <*> a).map g = f.map (g ∘ ·) <*> a := by
  cases f <;> cases a <;> rfl

theorem under_eq_valid {segment : Segment} {result : Checked α} {a : α} :
    result.under segment = .valid a ↔ result = .valid a := by
  cases result <;> simp [under]

theorem andThen_eq_valid {result : Checked α} {next : α → Checked β} {b : β} :
    result.andThen next = .valid b ↔ ∃ a, result = .valid a ∧ next a = .valid b := by
  cases result <;> simp [andThen]

/-- A list is accepted when all its items are, and then holds what they gave in their order. -/
theorem ofList_eq_valid {results : List (Checked α)} {start : ℕ} {as : List α} :
    ofList start results = .valid as ↔ results = as.map .valid := by
  induction results generalizing start as with
  | nil => cases as <;> simp [ofList]
  | cons result results ih =>
    rw [ofList, both_eq_valid]
    simp only [under_eq_valid, ih]
    constructor
    · rintro ⟨a, as', rfl, rfl, rfl⟩
      rfl
    · intro h
      obtain ⟨a, as', rfl, ha, has⟩ := List.map_eq_cons_iff.mp h.symm
      exact ⟨a, as', ha.symm, has.symm, rfl⟩

/-! ## Reported issues -/

/-- Whether every issue of a result has a property. -/
def Reports (P : Issue → Prop) : Checked α → Prop
  | .valid _ => True
  | .invalid issues => ∀ issue ∈ issues, P issue

variable {P : Issue → Prop}

theorem Reports.imp {Q : Issue → Prop} {result : Checked α} (h : result.Reports P)
    (hPQ : ∀ issue, P issue → Q issue) : result.Reports Q := by
  cases result with
  | valid a => trivial
  | invalid issues => exact fun issue hmem => hPQ issue (h issue hmem)

theorem reports_fault {fault : Fault} {input : Value} (h : P ⟨fault, [], input⟩) :
    (Checked.fault fault input : Checked α).Reports P := by
  simpa [Checked.fault, Reports] using h

theorem reports_seq {f : Checked (α → β)} {a : Checked α} (hf : f.Reports P) (ha : a.Reports P) :
    (f <*> a).Reports P := by
  change (both (fun g x => g x) f a).Reports P
  cases f <;> cases a <;> simp_all [both, Reports, or_imp]

theorem reports_map {f : α → β} {a : Checked α} (ha : a.Reports P) : (f <$> a).Reports P := by
  change (Checked.map f a).Reports P
  cases a with
  | valid x => trivial
  | invalid issues => exact ha

/-- An issue is seen from outside under the segment that leads to it. -/
theorem reports_under {segment : Segment} {result : Checked α}
    (h : result.Reports fun issue => P (issue.under segment)) :
    (result.under segment).Reports P := by
  cases result with
  | valid a => exact h
  | invalid issues => simpa [under, Reports] using h

end Checked

open Checked

variable {α : Type}

/-! ## Fields -/

/-- A field that has to be given has been given, and its value accepted. -/
theorem required_eq_valid {record : Value.Entries} {field : Field} {decode : Decoder α} {a : α} :
    required record field decode = .valid a ↔
      ∃ used v, field.find? record = some (used, v) ∧ decode v = .valid a := by
  rw [required]
  cases h : field.find? record with
  | none => simp
  | some found =>
    obtain ⟨used, v⟩ := found
    simp [under_eq_valid]

theorem defaulted_eq_valid {record : Value.Entries} {field : Field} {default : α}
    {decode : Decoder α} {a : α} :
    defaulted record field default decode = .valid a ↔
      (∃ used v, field.find? record = some (used, v) ∧ decode v = .valid a)
        ∨ field.find? record = none ∧ default = a := by
  rw [defaulted]
  cases h : field.find? record with
  | none => simp
  | some found =>
    obtain ⟨used, v⟩ := found
    simp [under_eq_valid]

theorem required_of_find? {record : Value.Entries} {field : Field} {decode : Decoder α}
    {used : String} {v : Value} {a : α} (h : field.find? record = some (used, v))
    (ha : decode v = .valid a) : required record field decode = .valid a :=
  required_eq_valid.mpr ⟨used, v, h, ha⟩

theorem nullable_of_find? {record : Value.Entries} {field : Field} {decode : Decoder α}
    {used : String} {v : Value} {a : Option α} (h : field.find? record = some (used, v))
    (ha : optional decode v = .valid a) : nullable record field decode = .valid a :=
  defaulted_eq_valid.mpr (Or.inl ⟨used, v, h, ha⟩)

/-- A field whose name is its key is found under that. -/
theorem Field.find?_key (key : String) (record : Value.Entries) :
    Field.find? (key : Field) record = (record.find? key).map fun v => (key, v) := by
  rw [Field.find?]
  cases record.find? key <;> simp

theorem required_key_eq_valid {record : Value.Entries} {key : String} {decode : Decoder α} {a : α} :
    required record (key : Field) decode = .valid a ↔
      ∃ v, record.find? key = some v ∧ decode v = .valid a := by
  rw [required_eq_valid, Field.find?_key]
  cases record.find? key <;> simp

theorem defaulted_key_eq_valid {record : Value.Entries} {key : String} {default : α}
    {decode : Decoder α} {a : α} :
    defaulted record (key : Field) default decode = .valid a ↔
      (∃ v, record.find? key = some v ∧ decode v = .valid a)
        ∨ record.find? key = none ∧ default = a := by
  rw [defaulted_eq_valid, Field.find?_key]
  cases record.find? key <;> simp

/-- A field that may be missing, and is accepted only in the form that its value is encoded in. -/
theorem defaulted_key_eq_valid_of_encode (record : Value.Entries) (key : String) (default : α)
    {decode : Decoder α} {encode : α → Value} {P : α → Prop}
    (h : ∀ v a, decode v = .valid a ↔ v = encode a ∧ P a) (hdefault : P default) {a : α} :
    defaulted record (key : Field) default decode = .valid a ↔
      (record.find? key).getD (encode default) = encode a ∧ P a := by
  rw [defaulted_key_eq_valid]
  cases record.find? key with
  | some v => simp [h]
  | none =>
    have hinjective : encode default = encode a ∧ P a → default = a := by
      intro hencode
      have hself := (h (encode default) default).mpr ⟨rfl, hdefault⟩
      rw [(h _ a).mpr hencode] at hself
      cases hself
      rfl
    constructor
    · rintro (⟨v, hv, _⟩ | ⟨_, rfl⟩)
      · cases hv
      · exact ⟨rfl, hdefault⟩
    · intro hencode
      exact Or.inr ⟨rfl, hinjective hencode⟩

/-- What is accepted as a record is a map whose fields are accepted. -/
theorem record_eq_valid {name : String} {fields : Value.Entries → Checked α} {v : Value} {a : α} :
    record name fields v = .valid a ↔ ∃ entries, v = .map entries ∧ fields entries = .valid a := by
  cases v <;> simp [record, Checked.fault]

/-- What is accepted as a list is a list whose items are accepted. -/
theorem listOf_eq_valid {decode : Decoder α} {v : Value} {as : List α} :
    listOf decode v = .valid as ↔ ∃ items, v = .list items ∧ items.map decode = as.map .valid := by
  cases v <;> simp [listOf, Checked.fault, ofList_eq_valid]

/-- What is accepted besides null is accepted by the decoder. -/
theorem optional_eq_some {decode : Decoder α} {v : Value} {a : α} :
    optional decode v = .valid (some a) ↔ v ≠ .null ∧ decode v = .valid a := by
  have hmap : (decode v).map some = .valid (some a) ↔ decode v = .valid a := by
    cases decode v <;> simp [Checked.map]
  cases v <;> simp [optional, hmap]

/-- A given field is one of the values of the record. -/
theorem Field.mem_of_find? {field : Field} {record : Value.Entries} {used : String} {v : Value}
    (h : field.find? record = some (used, v)) : ∃ key, (key, v) ∈ record := by
  have hfind : ∀ {key : String} {w : Value}, record.find? key = some w → ∃ k, (k, w) ∈ record := by
    intro key w hw
    rw [Value.Entries.find?, Option.map_eq_some_iff] at hw
    obtain ⟨⟨k, w'⟩, hmem, rfl⟩ := hw
    exact ⟨k, List.mem_of_find?_eq_some hmem⟩
  rw [Field.find?] at h
  split at h
  · rename_i w hw
    cases h
    exact hfind hw
  · obtain ⟨w, hw, heq⟩ := Option.map_eq_some_iff.mp h
    cases heq
    exact hfind hw

variable {P : Issue → Prop}

theorem reports_required {record : Value.Entries} {field : Field} {decode : Decoder α}
    (hrecord : P ⟨.missing, [.key field.key], .map record⟩)
    (h : ∀ entry ∈ record, ∀ used,
      (decode entry.2).Reports fun issue => P (issue.under (.key used))) :
    (required record field decode).Reports P := by
  rw [required]
  cases hfind : field.find? record with
  | none => simpa [Reports] using hrecord
  | some found =>
    obtain ⟨key, hmem⟩ := Field.mem_of_find? hfind
    exact reports_under (h _ hmem _)

theorem reports_defaulted {record : Value.Entries} {field : Field} {default : α}
    {decode : Decoder α}
    (h : ∀ entry ∈ record, ∀ used,
      (decode entry.2).Reports fun issue => P (issue.under (.key used))) :
    (defaulted record field default decode).Reports P := by
  rw [defaulted]
  cases hfind : field.find? record with
  | none => trivial
  | some found =>
    obtain ⟨key, hmem⟩ := Field.mem_of_find? hfind
    exact reports_under (h _ hmem _)

theorem reports_optional {decode : Decoder α} {v : Value} (h : (decode v).Reports P) :
    (optional decode v).Reports P := by
  rw [optional.eq_def]
  split
  · trivial
  · exact reports_map h

/-! ## Issues with one part -/

theorem reports_literal {part : Value} (h : ∀ fault, P ⟨fault, [], part⟩) (text : String) :
    (literal text part).Reports P := by
  rw [literal.eq_def]
  split
  · split
    · trivial
    · exact reports_fault (h _)
  · exact reports_fault (h _)
  · exact reports_fault (h _)

theorem reports_strictString {part : Value} (h : ∀ fault, P ⟨fault, [], part⟩) :
    (strictString part).Reports P := by
  rw [strictString.eq_def]
  split
  · trivial
  · exact reports_fault (h _)
  · exact reports_fault (h _)

theorem reports_strictInteger {part : Value} (h : ∀ fault, P ⟨fault, [], part⟩) :
    (strictInteger part).Reports P := by
  rw [strictInteger.eq_def]
  split
  · trivial
  · exact reports_fault (h _)

theorem reports_listOf_any {part : Value} (h : ∀ fault, P ⟨fault, [], part⟩) :
    (listOf any part).Reports P := by
  rw [listOf.eq_def]
  split
  · rename_i items
    have hitems : ofList 0 (items.map any) = .valid items :=
      ofList_eq_valid.mpr rfl
    rw [hitems]
    trivial
  · exact reports_fault (h _)

/-! ## Scalars that are accepted -/

theorem literal_eq_valid {text : String} {v : Value} {s : String} :
    literal text v = .valid s ↔ v = .str text ∧ s = text := by
  cases v with
  | str given =>
    by_cases h : given = text
    · subst h
      simp [literal, eq_comm]
    · simp [literal, h, Checked.fault]
  | _ => simp [literal, Checked.fault]

theorem strictString_eq_valid {v : Value} {s : String} :
    strictString v = .valid s ↔ v = .str s := by
  cases v <;> simp [strictString, Checked.fault]

theorem listOf_any_eq_valid {v : Value} {items : List Value} :
    listOf any v = .valid items ↔ v = .list items := by
  rw [listOf_eq_valid]
  constructor
  · rintro ⟨given, rfl, hitems⟩
    rw [List.map_injective_iff.mpr (fun _ _ h => by cases h; rfl) hitems]
  · rintro rfl
    exact ⟨items, rfl, rfl⟩

/-- Null is accepted where a value may be missing, and gives none. -/
theorem optional_eq_none {decode : Decoder α} {v : Value} :
    optional decode v = .valid none ↔ v = .null := by
  have hmap : (decode v).map some ≠ .valid none := by
    cases decode v <;> simp [Checked.map]
  cases v <;> simp [optional, hmap]

theorem optional_str (given : Option String) :
    optional string (.ofOption .str given) = .valid given := by
  cases given <;> rfl

theorem optional_int (given : Option Int) :
    optional integer (.ofOption .int given) = .valid given := by
  cases given <;> rfl

/-- An integer within its bounds is accepted. -/
theorem integerWithin_int {bounds : List Bound} {n : Int}
    (h : ∀ bound ∈ bounds, bound.fault? n = none) : integerWithin bounds (.int n) = .valid n := by
  have hfind : bounds.findSome? (Bound.fault? · n) = none := List.findSome?_eq_none_iff.mpr h
  simp only [integerWithin, integer, andThen, hfind]

end IntentGateway.Schema
