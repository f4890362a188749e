import IntentGateway.Proofs.Address.Canonical
import Mathlib.Data.List.Forall2

/-! # The spellings of an account

An account is forty half bytes. A text spells it by forty hexadecimal digits in any letter case,
with or without a marker in front of them and with any blanks around all that (`Address.Spells`).
What is read of a text is exactly that (`Address.account?_eq_some_iff`), and the canonical spelling
is the same for two texts exactly if they spell the same account (`Address.canonical?_eq_iff`):
neither the lower case of the digits nor their hash depends on anything else.
-/

namespace IntentGateway

namespace Text

/-! ## What stands around a text -/

/-- What is stripped of a text are blanks. -/
theorem exists_eq_strip (text : List Char) :
    ∃ before after, text = before ++ strip text ++ after
      ∧ (∀ c ∈ before, isBlank c = true) ∧ ∀ c ∈ after, isBlank c = true := by
  have hsplit : text = text.takeWhile isBlank ++ text.dropWhile isBlank :=
    List.takeWhile_append_dropWhile.symm
  generalize hrest : text.dropWhile isBlank = rest at hsplit
  have hrest' : rest = strip text ++ (rest.reverse.takeWhile isBlank).reverse := by
    rw [strip, stripOf, hrest, ← List.reverse_append, List.takeWhile_append_dropWhile,
      List.reverse_reverse]
  refine ⟨text.takeWhile isBlank, (rest.reverse.takeWhile isBlank).reverse, ?_,
    fun c hc => List.mem_takeWhile_imp hc, fun c hc => ?_⟩
  · rw [List.append_assoc, ← hrest', ← hsplit]
  · exact List.mem_takeWhile_imp (List.mem_reverse.mp hc)

/-- What is dropped in front of digits is a marker. -/
theorem exists_eq_dropHexMarker (text : List Char) :
    ∃ marker ∈ hexMarkers, text = marker ++ dropHexMarker text := by
  rw [dropHexMarker.eq_def]
  split
  · exact ⟨['0', 'x'], by simp [hexMarkers], rfl⟩
  · exact ⟨['0', 'X'], by simp [hexMarkers], rfl⟩
  · exact ⟨[], by simp [hexMarkers], rfl⟩

end Text

namespace Address

open Text (IsHexDigit hexDigits hexMarkers mem_hexDigits forall_mem_hexDigits)

/-- Whether a text spells the account with these half bytes: by their digits in any letter case,
perhaps behind a marker, and perhaps with blanks around. -/
def Spells (spelling : String) (account : List ℕ) : Prop :=
  account.length = digitCount ∧ ∃ before marker digits after,
    spelling.toList = before ++ (marker ++ digits) ++ after
      ∧ (∀ c ∈ before, Text.isBlank c = true) ∧ (∀ c ∈ after, Text.isBlank c = true)
      ∧ marker ∈ hexMarkers ∧ List.Forall₂ IsHexDigit digits account

/-- The half bytes that digits stand for. -/
def halvesOf (digits : List Char) : List ℕ :=
  digits.map fun c => (Text.hexValue? c).getD 0

/-- The account that a text spells. -/
def account? (spelling : String) : Option (List ℕ) :=
  (digits? spelling.toList).map halvesOf

/-! ## Digits -/

theorem isHexDigit_of_mem {c : Char} (h : c ∈ hexDigits) :
    IsHexDigit c ((Text.hexValue? c).getD 0) := by
  obtain ⟨n, hn⟩ := Option.isSome_iff_exists.mp (Text.isSome_hexValue? c h)
  rw [hn, Option.getD_some]
  exact Text.hexValue?_eq_some_iff.mp hn

theorem mem_of_isHexDigit {c : Char} {n : ℕ} (h : IsHexDigit c n) : c ∈ hexDigits :=
  mem_hexDigits (by rw [Text.hexValue?_eq_some_iff.mpr h]; rfl)

/-- Digits stand for the half bytes of which they are the digits. -/
theorem forall₂_isHexDigit_iff {digits : List Char} {account : List ℕ} :
    List.Forall₂ IsHexDigit digits account ↔
      (∀ c ∈ digits, c ∈ hexDigits) ∧ halvesOf digits = account := by
  constructor
  · intro h
    induction h with
    | nil => exact ⟨nofun, rfl⟩
    | @cons c n digits account hc _ ih =>
      refine ⟨List.forall_mem_cons.mpr ⟨mem_of_isHexDigit hc, ih.1⟩, ?_⟩
      rw [halvesOf, List.map_cons, Text.hexValue?_eq_some_iff.mpr hc, ← ih.2]
      rfl
  · rintro ⟨hdigits, rfl⟩
    rw [halvesOf, List.forall₂_map_right_iff, List.forall₂_same]
    exact fun c hc => isHexDigit_of_mem (hdigits c hc)

/-- Whatever spells an account has its digits behind at most one marker and between blanks. -/
theorem exists_of_digits? {spelling digits : List Char} (h : digits? spelling = some digits) :
    ∃ before marker after, spelling = before ++ (marker ++ digits) ++ after
      ∧ (∀ c ∈ before, Text.isBlank c = true) ∧ (∀ c ∈ after, Text.isBlank c = true)
      ∧ marker ∈ hexMarkers := by
  have hdigits : Text.dropHexMarker (Text.strip spelling) = digits := by
    rw [digits?] at h
    split at h
    · exact Option.some.inj h
    · cases h
  obtain ⟨before, after, hspelling, hbefore, hafter⟩ := Text.exists_eq_strip spelling
  obtain ⟨marker, hmarker, hstrip⟩ := Text.exists_eq_dropHexMarker (Text.strip spelling)
  rw [hdigits] at hstrip
  exact ⟨before, marker, after, hstrip ▸ hspelling, hbefore, hafter, hmarker⟩

/-! ## Accounts -/

/-- The account that is read is the one that the text spells. -/
theorem account?_eq_some_iff {spelling : String} {account : List ℕ} :
    account? spelling = some account ↔ Spells spelling account := by
  rw [account?, Option.map_eq_some_iff]
  constructor
  · rintro ⟨digits, h, rfl⟩
    obtain ⟨hlength, hdigits⟩ := digits?_eq_some h
    obtain ⟨before, marker, after, hspelling, hbefore, hafter, hmarker⟩ := exists_of_digits? h
    exact ⟨by rw [halvesOf, List.length_map, hlength], before, marker, digits, after, hspelling,
      hbefore, hafter, hmarker, forall₂_isHexDigit_iff.mpr ⟨hdigits, rfl⟩⟩
  · rintro ⟨hlength, before, marker, digits, after, hspelling, hbefore, hafter, hmarker, hspells⟩
    obtain ⟨hdigits, hhalves⟩ := forall₂_isHexDigit_iff.mp hspells
    rw [← hspells.length_eq] at hlength
    refine ⟨digits, ?_, hhalves⟩
    rw [hspelling]
    exact digits?_eq_some_of hbefore hafter hmarker hlength hdigits

instance (spelling : String) (account : List ℕ) : Decidable (Spells spelling account) :=
  decidable_of_iff _ account?_eq_some_iff

/-- The lower case of digits and the half bytes that they stand for determine each other. -/
theorem map_toLower_eq_iff {digits digits' : List Char} (h : ∀ c ∈ digits, c ∈ hexDigits)
    (h' : ∀ c ∈ digits', c ∈ hexDigits) :
    digits.map Char.toLower = digits'.map Char.toLower ↔ halvesOf digits = halvesOf digits' := by
  have hlower : ∀ c ∈ hexDigits, Nat.digitChar ((Text.hexValue? c).getD 0) = c.toLower :=
    forall_mem_hexDigits (by decide)
  have hvalue : ∀ c ∈ hexDigits, Text.hexValue? c.toLower = Text.hexValue? c :=
    forall_mem_hexDigits (by decide)
  have hof {digits : List Char} (h : ∀ c ∈ digits, c ∈ hexDigits) :
      (halvesOf digits).map Nat.digitChar = digits.map Char.toLower
        ∧ halvesOf (digits.map Char.toLower) = halvesOf digits := by
    simp only [halvesOf, List.map_map]
    exact ⟨List.map_congr_left fun c hc => hlower c (h c hc),
      List.map_congr_left fun c hc => congrArg (Option.getD · 0) (hvalue c (h c hc))⟩
  constructor
  · intro heq
    rw [← (hof h).2, heq, (hof h').2]
  · intro heq
    rw [← (hof h).1, heq, (hof h').1]

/-- Digits with a checksum are the same exactly if they stand for the same half bytes. -/
theorem checksummed_eq_iff {digits digits' : List Char} (h : ∀ c ∈ digits, c ∈ hexDigits)
    (h' : ∀ c ∈ digits', c ∈ hexDigits) :
    checksummed digits = checksummed digits' ↔ halvesOf digits = halvesOf digits' := by
  rw [← map_toLower_eq_iff h h']
  constructor
  · intro heq
    rw [← map_toLower_checksummed h, heq, map_toLower_checksummed h']
  · intro heq
    rw [checksummed, heq, ← checksummed]

/-- A text has a canonical spelling exactly if it spells an account. -/
theorem canonical?_isSome_iff {spelling : String} :
    (canonical? spelling).isSome = true ↔ ∃ account, Spells spelling account := by
  simp only [← account?_eq_some_iff, ← Option.isSome_iff_exists, canonical?, account?,
    Option.isSome_map]

/-- Texts have the same canonical spelling exactly if they spell the same account. -/
theorem canonical?_eq_iff {spelling : String} {account : List ℕ} (h : Spells spelling account)
    (other : String) : canonical? other = canonical? spelling ↔ Spells other account := by
  rw [← account?_eq_some_iff] at h ⊢
  rw [← h, canonical?, canonical?, account?, account?]
  rw [account?, Option.map_eq_some_iff] at h
  obtain ⟨digits, hdigits, _⟩ := h
  rw [hdigits]
  cases hother : digits? other.toList with
  | none => simp
  | some digits' =>
    have hiff := checksummed_eq_iff (digits?_eq_some hother).2 (digits?_eq_some hdigits).2
    simpa [String.ofList_inj] using hiff

end Address

end IntentGateway
