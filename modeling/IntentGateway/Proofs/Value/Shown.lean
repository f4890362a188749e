import IntentGateway.Failure
import IntentGateway.Proofs.Numeral.Decimal
import IntentGateway.Proofs.Value.Nesting

/-! # Values that can be shown

A value can be shown unless an integer in it has too many digits to be written, or values are nested
too deep in it (`Value.quotedWithin_eq_ok_iff`). Where it cannot be shown, one of the two is
reported, and never one that is not there.
-/

namespace IntentGateway

/-! ## Step by step -/

section Mapped

variable {α β γ ε : Type} {f : α → Except ε β}

/-- All of a list is taken if each of it is. -/
theorem exists_mapM_eq_ok_iff {l : List α} :
    (∃ parts, l.mapM f = .ok parts) ↔ ∀ a ∈ l, ∃ part, f a = .ok part := by
  induction l with
  | nil => exact iff_of_true ⟨[], rfl⟩ (by simp)
  | cons a l ih =>
    rw [List.forall_mem_cons, ← ih, List.mapM_cons]
    cases f a with
    | error e => exact iff_of_false (fun ⟨_, h⟩ => nomatch h) fun h => nomatch h.1.choose_spec
    | ok part =>
      cases l.mapM f with
      | error e => exact iff_of_false (fun ⟨_, h⟩ => nomatch h) fun h => nomatch h.2.choose_spec
      | ok parts => exact iff_of_true ⟨_, rfl⟩ ⟨⟨_, rfl⟩, _, rfl⟩

/-- What is reported of a list is reported of something in it. -/
theorem exists_of_mapM_eq_error {l : List α} {e : ε} (h : l.mapM f = .error e) :
    ∃ a ∈ l, f a = .error e := by
  induction l with
  | nil => cases h
  | cons a l ih =>
    rw [List.mapM_cons] at h
    cases ha : f a with
    | error e' =>
      rw [ha] at h
      cases h
      exact ⟨a, List.mem_cons_self, ha⟩
    | ok part =>
      rw [ha] at h
      cases hrest : l.mapM f with
      | error e' =>
        rw [show e' = e by rw [hrest] at h; exact Except.error.inj h] at hrest
        obtain ⟨a', hmem, ha'⟩ := ih hrest
        exact ⟨a', List.mem_cons_of_mem a hmem, ha'⟩
      | ok parts =>
        rw [hrest] at h
        cases h

theorem map_eq_ok_iff {result : Except ε β} {g : β → γ} {c : γ} :
    result.map g = .ok c ↔ ∃ b, result = .ok b ∧ g b = c := by
  cases result <;> simp [Except.map]

theorem exists_map_eq_ok_iff {result : Except ε β} {g : β → γ} :
    (∃ c, result.map g = .ok c) ↔ ∃ b, result = .ok b := by
  cases result with
  | error e => exact iff_of_false (fun ⟨_, h⟩ => nomatch h) fun ⟨_, h⟩ => nomatch h
  | ok b => exact iff_of_true ⟨_, rfl⟩ ⟨b, rfl⟩

theorem map_eq_error_iff {result : Except ε β} {g : β → γ} {e : ε} :
    result.map g = .error e ↔ result = .error e := by
  cases result <;> simp [Except.map]

end Mapped

namespace Value

/-! ## Values with too many digits -/

/-- Whether an integer in a value, at any depth, has too many digits to be written. -/
inductive HasLong : Value → Prop where
  | int {n : Int} (h : 10 ^ Numeral.digitLimit ≤ n.natAbs) : HasLong (.int n)
  | list {items : List Value} {item : Value} (hmem : item ∈ items) (h : HasLong item) :
      HasLong (.list items)
  | map {entries : Entries} {entry : RawText × Value} (hmem : entry ∈ entries)
      (h : HasLong entry.2) : HasLong (.map entries)

@[simp]
theorem hasLong_int {n : Int} :
    (Value.int n).HasLong ↔ 10 ^ Numeral.digitLimit ≤ n.natAbs :=
  ⟨fun | .int h => h, .int⟩

@[simp]
theorem hasLong_list {items : List Value} :
    (Value.list items).HasLong ↔ ∃ item ∈ items, item.HasLong :=
  ⟨fun | .list hmem h => ⟨_, hmem, h⟩, fun ⟨_, hmem, h⟩ => .list hmem h⟩

@[simp]
theorem hasLong_map {entries : Entries} :
    (Value.map entries).HasLong ↔ ∃ entry ∈ entries, entry.2.HasLong :=
  ⟨fun | .map hmem h => ⟨_, hmem, h⟩, fun ⟨_, hmem, h⟩ => .map hmem h⟩

/-! ## Which values can be shown -/

/-- A value can be shown exactly if there is no integer with too many digits in it, and it is not
nested too deep. -/
theorem quotedWithin_eq_ok_iff {room : ℕ} {v : Value} :
    (∃ s, quotedWithin room v = .ok s) ↔ ¬ v.HasLong ∧ v.Layers room := by
  induction room generalizing v with
  | zero => exact iff_of_false (fun ⟨_, h⟩ => nomatch h) fun h => not_layers_zero h.2
  | succ room ih =>
    cases v with
    | int n =>
      rw [and_iff_left (.scalar rfl), hasLong_int, Nat.not_le, ← Numeral.fits_iff, quotedWithin]
      cases Numeral.fits n <;> simp
    | list items =>
      rw [quotedWithin, exists_map_eq_ok_iff, exists_mapM_eq_ok_iff, hasLong_list, layers_list]
      simp only [ih, not_exists, not_and, ← forall_and]
    | map entries =>
      rw [quotedWithin, exists_map_eq_ok_iff, exists_mapM_eq_ok_iff, hasLong_map, layers_map]
      simp only [exists_map_eq_ok_iff, ih, not_exists, not_and, ← forall_and]
    | _ =>
      refine iff_of_true ⟨_, by rw [quotedWithin]⟩ ⟨?_, .scalar rfl⟩
      rintro ⟨⟩

/-- What is reported of a value that cannot be shown is true of it. -/
theorem of_quotedWithin_eq_error {room : ℕ} {v : Value} {e : Unshowable}
    (h : quotedWithin room v = .error e) :
    e = .tooLarge ∧ v.HasLong ∨ e = .tooDeep ∧ ¬ v.Layers room := by
  induction room generalizing v with
  | zero =>
    cases h
    exact .inr ⟨rfl, not_layers_zero⟩
  | succ room ih =>
    cases v with
    | int n =>
      rw [quotedWithin] at h
      split at h
      · cases h
      · rename_i hn
        cases h
        rw [Numeral.fits_iff, Nat.not_lt] at hn
        exact .inl ⟨rfl, .int hn⟩
    | list items =>
      rw [quotedWithin, map_eq_error_iff] at h
      obtain ⟨item, hmem, hitem⟩ := exists_of_mapM_eq_error h
      obtain ⟨he, hlong⟩ | ⟨he, hdeep⟩ := ih hitem
      · exact .inl ⟨he, .list hmem hlong⟩
      · exact .inr ⟨he, fun hlayers => hdeep (layers_list.mp hlayers item hmem)⟩
    | map entries =>
      rw [quotedWithin, map_eq_error_iff] at h
      obtain ⟨entry, hmem, hentry⟩ := exists_of_mapM_eq_error h
      obtain ⟨he, hlong⟩ | ⟨he, hdeep⟩ := ih (map_eq_error_iff.mp hentry)
      · exact .inl ⟨he, .map hmem hlong⟩
      · exact .inr ⟨he, fun hlayers => hdeep (layers_map.mp hlayers entry hmem)⟩
    | _ =>
      rw [quotedWithin] at h
      cases h

end Value

/-! ## Values that are shown -/

theorem Failure.reason?_ofUnshowable (e : Value.Unshowable) : (ofUnshowable e).reason? = none := by
  cases e <;> rfl

theorem Value.exists_shown_int [Nesting] {n : Int} (h : Numeral.fits n = true) :
    ∃ s, (Value.int n).shown = .ok s :=
  ⟨_, (shown_int n).trans (if_pos h)⟩

/-- A string can be shown, however deep other values may be nested. -/
theorem Value.exists_shown_ofRaw [Nesting] (raw : RawText) :
    ∃ s, (Value.ofRaw raw).shown = .ok s := by
  have hlayers : (Value.ofRaw raw).Layers Nesting.shown :=
    (within_ofRaw raw 0).layers Nesting.shown_pos
  have hlong : ¬ (Value.ofRaw raw).HasLong := by
    cases raw <;> rintro ⟨⟩
  obtain ⟨s, hs⟩ := quotedWithin_eq_ok_iff.mpr ⟨hlong, hlayers⟩
  exact ⟨s, by rw [shown, quoted, hs]; rfl⟩

/-- A value that cannot be shown is no reason to refuse anything. -/
theorem Value.reason?_of_shown_eq_error [Nesting] {v : Value} {failure : Failure}
    (h : v.shown = .error failure) : failure.reason? = none := by
  rw [shown] at h
  cases hquoted : v.quoted with
  | ok s =>
    rw [hquoted] at h
    cases h
  | error e =>
    rw [hquoted] at h
    cases h
    exact Failure.reason?_ofUnshowable e

end IntentGateway
