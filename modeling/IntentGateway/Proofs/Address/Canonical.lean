import IntentGateway.Address.Basic
import IntentGateway.Proofs.Text.Hex
import Mathlib.Data.List.TakeWhile
import Mathlib.Tactic.IntervalCases

/-! # The canonical spelling of an address

The canonical spelling of an address is a spelling of that address, and its own canonical spelling.
The reason is that letter case does not matter to the digits that are hashed.
-/

namespace IntentGateway

namespace Text

/-- The hexadecimal digits in both cases. -/
def hexDigits : List Char :=
  "0123456789abcdefABCDEF".toList

theorem mem_hexDigits {c : Char} (h : (hexValue? c).isSome = true) : c ∈ hexDigits := by
  -- as code points the digits are in three ranges
  have hrange : (48 ≤ c.toNat ∧ c.toNat ≤ 57) ∨ (97 ≤ c.toNat ∧ c.toNat ≤ 102)
      ∨ (65 ≤ c.toNat ∧ c.toNat ≤ 70) := by
    rw [hexValue?] at h
    split at h
    · rename_i hc
      exact Or.inl hc
    · split at h
      · rename_i hc
        exact Or.inr (Or.inl hc)
      · split at h
        · rename_i hc
          exact Or.inr (Or.inr hc)
        · cases h
  rw [← Char.ofNat_toNat c]
  generalize c.toNat = n at hrange
  rcases hrange with ⟨hlow, hhigh⟩ | ⟨hlow, hhigh⟩ | ⟨hlow, hhigh⟩ <;>
    interval_cases n <;> decide

/-- What holds of all hexadecimal digits can be checked one by one. -/
theorem forall_mem_hexDigits {P : Char → Prop} [DecidablePred P]
    (h : hexDigits.all (fun c => decide (P c)) = true) : ∀ c ∈ hexDigits, P c := by
  intro c hc
  exact of_decide_eq_true (List.all_eq_true.mp h c hc)

theorem isSome_hexValue? : ∀ c ∈ hexDigits, (hexValue? c).isSome = true :=
  forall_mem_hexDigits (by decide)

theorem isBlank_of_mem_hexDigits : ∀ c ∈ hexDigits, isBlank c = false :=
  forall_mem_hexDigits (by decide)

/-! ## Blanks and markers around a text -/

/-- Behind and before blanks, a text without any is what is left when they are stripped. -/
theorem strip_append {before core after : List Char} (hbefore : ∀ c ∈ before, isBlank c = true)
    (hcore : ∀ c ∈ core, isBlank c = false) (hafter : ∀ c ∈ after, isBlank c = true) :
    strip (before ++ core ++ after) = core := by
  by_cases hne : core = []
  · subst hne
    have hblank : ∀ c ∈ before ++ [] ++ after, isBlank c = true := by
      simpa [or_imp, forall_and] using ⟨hbefore, hafter⟩
    rw [strip, stripOf, List.dropWhile_eq_nil_iff.mpr hblank]
    rfl
  have hdrop {blanks text rest : List Char} (hblanks : ∀ c ∈ blanks, isBlank c = true)
      (htext : ∀ c ∈ text, isBlank c = false) (hne : text ≠ []) :
      (blanks ++ (text ++ rest)).dropWhile isBlank = text ++ rest := by
    obtain ⟨c, text, rfl⟩ := List.exists_cons_of_ne_nil hne
    have hc : ¬ isBlank c = true := by simp [htext c List.mem_cons_self]
    rw [List.dropWhile_append_of_pos hblanks, List.cons_append, List.dropWhile_cons_of_neg hc]
  have hreverse : (core ++ after).reverse = after.reverse ++ (core.reverse ++ []) := by simp
  rw [strip, stripOf, List.append_assoc, hdrop hbefore hcore hne, hreverse,
    hdrop (by simpa using hafter) (by simpa using hcore) (by simpa using hne)]
  simp

/-- A text without blanks in it has none around it. -/
theorem strip_of_forall {text : List Char} (h : ∀ c ∈ text, isBlank c = false) :
    strip text = text := by
  have hstrip : strip ([] ++ text ++ []) = text := strip_append nofun h nofun
  rwa [List.nil_append, List.append_nil] at hstrip

theorem isBlank_of_mem_hexMarkers {marker : List Char} (h : marker ∈ hexMarkers) :
    ∀ c ∈ marker, isBlank c = false := by
  have hzero : isBlank '0' = false := by decide
  have hsmall : isBlank 'x' = false := by decide
  have hcapital : isBlank 'X' = false := by decide
  simp only [hexMarkers, List.mem_cons, List.not_mem_nil, or_false] at h
  obtain rfl | rfl | rfl := h <;> simp [hzero, hsmall, hcapital]

/-- Digits are what is left behind a marker. -/
theorem dropHexMarker_append {marker digits : List Char} (hmarker : marker ∈ hexMarkers)
    (hdigits : ∀ c ∈ digits, c ∈ hexDigits) : dropHexMarker (marker ++ digits) = digits := by
  simp only [hexMarkers, List.mem_cons, List.not_mem_nil, or_false] at hmarker
  obtain rfl | rfl | rfl := hmarker
  · -- the letter of a marker is no digit
    rw [List.nil_append, dropHexMarker.eq_def]
    split
    · exact absurd (hdigits 'x' (by simp)) (by decide)
    · exact absurd (hdigits 'X' (by simp)) (by decide)
    · rfl
  · rfl
  · rfl

end Text

namespace Address

open Text (hexDigits hexMarkers mem_hexDigits forall_mem_hexDigits)

/-- Digits are read as they stand, behind a marker and between blanks. -/
theorem digits?_eq_some_of {before marker digits after : List Char}
    (hbefore : ∀ c ∈ before, Text.isBlank c = true) (hafter : ∀ c ∈ after, Text.isBlank c = true)
    (hmarker : marker ∈ hexMarkers) (hlength : digits.length = digitCount)
    (hdigits : ∀ c ∈ digits, c ∈ hexDigits) :
    digits? (before ++ (marker ++ digits) ++ after) = some digits := by
  have hcore : ∀ c ∈ marker ++ digits, Text.isBlank c = false := fun c hc =>
    (List.mem_append.mp hc).elim (Text.isBlank_of_mem_hexMarkers hmarker c)
      fun h => Text.isBlank_of_mem_hexDigits c (hdigits c h)
  rw [digits?, Text.strip_append hbefore hcore hafter]
  simp only [Text.dropHexMarker_append hmarker hdigits, hlength, decide_true, Bool.true_and]
  rw [if_pos (List.all_eq_true.mpr fun c hc => Text.isSome_hexValue? c (hdigits c hc))]

/-- A letter has the same lower case whichever case the hash asks for. -/
theorem toLower_caseOf (hash : Thunk (List UInt8)) (i : ℕ) {c : Char} (h : c ∈ hexDigits) :
    (caseOf hash i c.toLower).toLower = c.toLower := by
  have hlower : ∀ c ∈ hexDigits, c.toLower.toLower = c.toLower :=
    forall_mem_hexDigits (by decide)
  have hupper : ∀ c ∈ hexDigits, c.toLower.toUpper.toLower = c.toLower :=
    forall_mem_hexDigits (by decide)
  rw [caseOf]
  split
  · exact hlower c h
  · split
    · exact hupper c h
    · exact hlower c h

/-- Setting the case of a hexadecimal digit gives one. -/
theorem hexValue?_caseOf (hash : Thunk (List UInt8)) (i : ℕ) {c : Char} (h : c ∈ hexDigits) :
    (Text.hexValue? (caseOf hash i c.toLower)).isSome = true := by
  have hlower : ∀ c ∈ hexDigits, (Text.hexValue? c.toLower).isSome = true :=
    forall_mem_hexDigits (by decide)
  have hupper : ∀ c ∈ hexDigits, (Text.hexValue? c.toLower.toUpper).isSome = true :=
    forall_mem_hexDigits (by decide)
  rw [caseOf]
  split
  · exact hlower c h
  · split
    · exact hupper c h
    · exact hlower c h

variable {digits : List Char} (h : ∀ c ∈ digits, c ∈ hexDigits)
include h

theorem map_toLower_checksummed :
    (checksummed digits).map Char.toLower = digits.map Char.toLower := by
  apply List.ext_getElem
  · simp [checksummed]
  · intro i h₁ h₂
    simp only [checksummed, List.getElem_map, List.getElem_mapIdx]
    exact toLower_caseOf _ _ (h _ (List.getElem_mem _))

/-- The case of the digits does not matter to their checksum. -/
theorem checksummed_checksummed : checksummed (checksummed digits) = checksummed digits := by
  rw [checksummed, map_toLower_checksummed h, ← checksummed]

theorem mem_checksummed {c : Char} (hc : c ∈ checksummed digits) :
    (Text.hexValue? c).isSome = true := by
  rw [checksummed, List.mem_mapIdx] at hc
  obtain ⟨i, hi, rfl⟩ := hc
  rw [List.getElem_map]
  exact hexValue?_caseOf _ _ (h _ (List.getElem_mem _))

/-- The digits of a canonical spelling are those with a checksum. -/
theorem digits?_checksummed (hlength : digits.length = digitCount) :
    digits? ('0' :: 'x' :: checksummed digits) = some (checksummed digits) := by
  have hlen : (checksummed digits).length = digitCount := by
    simpa [checksummed] using hlength
  have hread : digits? ([] ++ (['0', 'x'] ++ checksummed digits) ++ [])
      = some (checksummed digits) :=
    digits?_eq_some_of nofun nofun (by simp [hexMarkers]) hlen
      fun c hc => mem_hexDigits (mem_checksummed h hc)
  simpa using hread

omit h

/-- The digits of a spelling are forty hexadecimal ones. -/
theorem digits?_eq_some {spelling : List Char} (hd : digits? spelling = some digits) :
    digits.length = digitCount ∧ ∀ c ∈ digits, c ∈ hexDigits := by
  rw [digits?] at hd
  split at hd
  · rename_i hcond
    rw [Option.some.injEq] at hd
    subst hd
    rw [Bool.and_eq_true, decide_eq_true_iff, List.all_eq_true] at hcond
    exact ⟨hcond.1, fun c hc => mem_hexDigits (hcond.2 c hc)⟩
  · cases hd

/-- Whether a text is the canonical spelling of an address. -/
def IsCanonical (address : String) : Prop :=
  canonical? address = some address

/-- The canonical spelling of an address is canonical. -/
theorem isCanonical_of_canonical? {spelling address : String}
    (hc : canonical? spelling = some address) : IsCanonical address := by
  rw [canonical?, Option.map_eq_some_iff] at hc
  obtain ⟨digits, hd, rfl⟩ := hc
  obtain ⟨hlength, hhex⟩ := digits?_eq_some hd
  rw [IsCanonical, canonical?, String.toList_ofList, digits?_checksummed hhex hlength,
    Option.map_some, checksummed_checksummed hhex]

variable [Nesting]

/-- A spelling of an address passes the check, in its canonical form. -/
theorem normalize_of_canonical? {spelling address : String}
    (hc : canonical? spelling = some address) (field : String) :
    normalize field (.str spelling) = .ok address := by
  have hbind : (Option.some spelling).bind canonical? = some address := hc
  simp only [normalize, Value.raw?, RawText.text?, hbind]

/-- What passes the check of an address is a text that spells one. -/
theorem normalize_eq_ok_iff {field address : String} {value : Value} :
    normalize field value = .ok address ↔
      ∃ spelling, value = .str spelling ∧ canonical? spelling = some address := by
  constructor
  · intro h
    rw [normalize] at h
    rcases hraw : value.raw? with _ | raw
    · rw [hraw] at h
      obtain ⟨_, _, h⟩ := Failure.bind_eq_ok h
      cases h
    · rcases hspelling : raw.text?.bind canonical? with _ | found
      · simp only [hraw, hspelling] at h
        cases h
      · simp only [hraw, hspelling, Except.ok.injEq] at h
        subst h
        cases raw with
        | text spelling => exact ⟨spelling, Value.eq_ofRaw_of_raw? hraw, hspelling⟩
        | illFormed points => cases hspelling
  · rintro ⟨spelling, rfl, hcanonical⟩
    exact normalize_of_canonical? hcanonical field

/-- What a check of an address gives is canonical. -/
theorem isCanonical_of_normalize {field address : String} {value : Value}
    (hn : normalize field value = .ok address) : IsCanonical address := by
  obtain ⟨spelling, _, hspelling⟩ := normalize_eq_ok_iff.mp hn
  exact isCanonical_of_canonical? hspelling

end Address

end IntentGateway
