import IntentGateway.Text.Hex
import Mathlib.Data.Nat.Init
import Mathlib.Tactic.SplitIfs

/-! # What hexadecimal texts denote

A text denotes bytes if it is made of pairs of digits, one pair for each byte, and of white space
that stands before, between or behind the pairs. That is what the reader takes, and nothing else;
the text that is written for bytes denotes them.
-/

namespace IntentGateway.Text

/-- A hexadecimal digit of either case. -/
def IsHexDigit (c : Char) (n : ℕ) : Prop :=
  n < 16 ∧ (c = Nat.digitChar n ∨ c = (Nat.digitChar n).toUpper)

/-- A text of pairs of digits, with white space only where no pair has begun, denotes the bytes of
its pairs. -/
inductive Denotes : List Char → List UInt8 → Prop
  | nil : Denotes [] []
  | space {c : Char} {text : List Char} {bytes : List UInt8} (space : isAsciiSpace c = true)
      (rest : Denotes text bytes) : Denotes (c :: text) bytes
  | pair {c d : Char} {text : List Char} {byte : UInt8} {bytes : List UInt8}
      (high : IsHexDigit c (byte.toNat / 16)) (low : IsHexDigit d (byte.toNat % 16))
      (rest : Denotes text bytes) : Denotes (c :: d :: text) (byte :: bytes)

/-! ## Digits -/

/-- Only an ASCII character has a value. -/
theorem toNat_lt_of_hexValue? {c : Char} {n : ℕ} (h : hexValue? c = some n) : c.toNat < 128 := by
  have hbelow : ∀ {high : Char}, c ≤ high → high.toNat < 128 → c.toNat < 128 :=
    fun hle hhigh => Nat.lt_of_le_of_lt hle hhigh
  rw [hexValue?] at h
  split_ifs at h with hdigit hlower hupper
  · exact hbelow hdigit.2 (by decide)
  · exact hbelow hlower.2 (by decide)
  · exact hbelow hupper.2 (by decide)

/-- The characters with a value are the digits of the two cases. -/
theorem hexValue?_eq_some_iff {c : Char} {n : ℕ} : hexValue? c = some n ↔ IsHexDigit c n := by
  constructor
  · intro h
    have hascii : ∀ k : Fin 128, ∀ m ∈ hexValue? (Char.ofNat k), IsHexDigit (Char.ofNat k) m := by
      unfold IsHexDigit
      decide
    have hc := hascii ⟨c.toNat, toNat_lt_of_hexValue? h⟩ n
    rw [Char.ofNat_toNat] at hc
    exact hc h
  · rintro ⟨hn, hc⟩
    have hdigits : ∀ k : Fin 16, hexValue? (Nat.digitChar k) = some k.val ∧
        hexValue? (Nat.digitChar k).toUpper = some k.val := by
      decide
    obtain ⟨hlower, hupper⟩ := hdigits ⟨n, hn⟩
    obtain rfl | rfl := hc
    · exact hlower
    · exact hupper

/-- A digit is no white space. -/
theorem isAsciiSpace_of_isHexDigit {c : Char} {n : ℕ} (h : IsHexDigit c n) :
    isAsciiSpace c = false := by
  have hdigits : ∀ k : Fin 16, isAsciiSpace (Nat.digitChar k) = false ∧
      isAsciiSpace (Nat.digitChar k).toUpper = false := by
    decide
  obtain ⟨hn, rfl | rfl⟩ := h
  · exact (hdigits ⟨n, hn⟩).1
  · exact (hdigits ⟨n, hn⟩).2

/-! ## Texts -/

/-- The bytes that are read are the ones that the text denotes. -/
theorem denotes_of_bytesOfHex? {text : List Char} {bytes : List UInt8}
    (h : bytesOfHex? text = some bytes) : Denotes text bytes := by
  fun_induction bytesOfHex? text generalizing bytes with
  | case1 =>
    cases h
    exact .nil
  | case2 c hspace =>
    cases h
    exact .space hspace .nil
  | case3 => cases h
  | case4 c d rest hspace ih => exact .space hspace (ih h)
  | case5 c d rest hspace high low hlow hhigh ih =>
    obtain ⟨tail, htail, rfl⟩ := Option.map_eq_some_iff.mp h
    have hc := hexValue?_eq_some_iff.mp hhigh
    have hd := hexValue?_eq_some_iff.mp hlow
    have hsmall := hc.1
    have hlast := hd.1
    have hbyte : (UInt8.ofNat (16 * high + low)).toNat = 16 * high + low :=
      Nat.mod_eq_of_lt (by omega)
    refine .pair ?_ ?_ (ih htail)
    · rwa [hbyte, show (16 * high + low) / 16 = high by omega]
    · rwa [hbyte, show (16 * high + low) % 16 = low by omega]
  | case6 => cases h

/-- A text that denotes bytes is read as them. -/
theorem bytesOfHex?_of_denotes {text : List Char} {bytes : List UInt8} (h : Denotes text bytes) :
    bytesOfHex? text = some bytes := by
  induction h with
  | nil => rfl
  | @space c text bytes hspace rest ih =>
    cases text with
    | nil =>
      rw [bytesOfHex?, if_pos hspace]
      exact ih
    | cons d text => rw [bytesOfHex?, if_pos hspace, ih]
  | @pair c d text byte bytes high low rest ih =>
    have hbyte : UInt8.ofNat (16 * (byte.toNat / 16) + byte.toNat % 16) = byte := by
      rw [Nat.div_add_mod, UInt8.ofNat_toNat]
    rw [bytesOfHex?, isAsciiSpace_of_isHexDigit high, if_neg Bool.false_ne_true,
      hexValue?_eq_some_iff.mpr high, hexValue?_eq_some_iff.mpr low, ih]
    simp only [Option.map_some, hbyte]

/-- What is read is what the text denotes. -/
theorem bytesOfHex?_eq_some_iff {text : List Char} {bytes : List UInt8} :
    bytesOfHex? text = some bytes ↔ Denotes text bytes :=
  ⟨denotes_of_bytesOfHex?, bytesOfHex?_of_denotes⟩

/-- The text that is written for bytes denotes them. -/
theorem denotes_hexOfBytes (bytes : List UInt8) : Denotes (hexOfBytes bytes) bytes := by
  induction bytes with
  | nil => exact .nil
  | cons byte bytes ih =>
    have hbyte := byte.toNat_lt
    exact .pair ⟨by omega, .inl rfl⟩ ⟨by omega, .inl rfl⟩ ih

/-! ## The marker of digits -/

/-- What may stand in front of digits, at most once. -/
def hexMarkers : List (List Char) :=
  [[], ['0', 'x'], ['0', 'X']]

/-- A text of digits does not begin with a marker. -/
theorem dropHexMarker_of_denotes {text : List Char} {bytes : List UInt8}
    (h : Denotes text bytes) : dropHexMarker text = text := by
  have hletter : ∀ {c : Char} {n : ℕ}, IsHexDigit c n → c ≠ 'x' ∧ c ≠ 'X' := by
    intro c n hc
    refine ⟨?_, ?_⟩
    · rintro rfl
      exact absurd (hexValue?_eq_some_iff.mpr hc) (by simp [hexValue?])
    · rintro rfl
      exact absurd (hexValue?_eq_some_iff.mpr hc) (by simp [hexValue?])
  cases h with
  | nil => rfl
  | space hspace rest =>
    rw [dropHexMarker]
    · rintro rest ⟨⟩
      exact absurd hspace (by decide)
    · rintro rest ⟨⟩
      exact absurd hspace (by decide)
  | pair high low rest =>
    rw [dropHexMarker]
    · rintro rest ⟨⟩
      exact (hletter low).1 rfl
    · rintro rest ⟨⟩
      exact (hletter low).2 rfl

/-- Behind at most one marker the text denotes the bytes. -/
theorem denotes_dropHexMarker_iff {text : List Char} {bytes : List UInt8} :
    Denotes (dropHexMarker text) bytes ↔
      ∃ marker ∈ hexMarkers, ∃ digits, text = marker ++ digits ∧ Denotes digits bytes := by
  constructor
  · intro h
    rw [dropHexMarker.eq_def] at h
    split at h
    · rename_i rest
      exact ⟨['0', 'x'], by simp [hexMarkers], rest, rfl, h⟩
    · rename_i rest
      exact ⟨['0', 'X'], by simp [hexMarkers], rest, rfl, h⟩
    · exact ⟨[], by simp [hexMarkers], text, rfl, h⟩
  · rintro ⟨marker, hmarker, digits, rfl, h⟩
    simp only [hexMarkers, List.mem_cons, List.not_mem_nil, or_false] at hmarker
    obtain rfl | rfl | rfl := hmarker
    · rwa [List.nil_append, dropHexMarker_of_denotes h]
    · exact h
    · exact h

end IntentGateway.Text
