import IntentGateway.Proofs.Json.Reading
import IntentGateway.Proofs.Schema.Decoding
import IntentGateway.Remote.Chain

/-! # The amounts of a block that was read

A quantity is a hexadecimal text, which has no sign, or a number, which was read within the limits.
So whatever a node sends, no transfer of a block that is accepted carries a negative amount with
more digits than can be written.
-/

namespace IntentGateway

/-- Every integer that can be written is greater than one with too many digits. -/
theorem Numeral.lt_of_fits {n : Int} (h : fits n = true) : -10 ^ digitLimit < n := by
  have habs := fits_iff.mp h
  have hcast : (n.natAbs : Int) < 10 ^ digitLimit := by exact_mod_cast habs
  generalize (10 : Int) ^ digitLimit = bound at hcast ⊢
  omega

theorem Numeral.fits_iff_of_nonneg {n : Int} (h : 0 ≤ n) :
    fits n = true ↔ n < 10 ^ digitLimit := by
  rw [fits_iff, ← Int.ofNat_lt, Int.natAbs_of_nonneg h]
  norm_cast

/-- A text behind the hexadecimal marker has no sign. -/
theorem Amount.nonneg_of_readQuantity {raw : RawText} {n : Int} (h : readQuantity raw = .ok n) :
    0 ≤ n := by
  rw [readQuantity] at h
  split at h
  · rename_i hmarker
    obtain ⟨rest, hchars⟩ : ∃ rest, raw.chars = '0' :: rest := by
      unfold Text.hasHexMarker at hmarker
      split at hmarker
      · exact ⟨_, by assumption⟩
      · exact ⟨_, by assumption⟩
      · cases hmarker
    -- neither white space nor a sign stands in front of the marker
    have hspace : Text.isSpace '0' = false := by decide
    have hsign : Numeral.splitSign (raw.chars.dropWhile Text.isSpace) = (false, raw.chars) := by
      rw [hchars, List.dropWhile_cons_of_neg (by simp [hspace])]
      rfl
    cases hread : Numeral.readRaw 16 raw with
    | error e =>
      rw [hread] at h
      cases h
    | ok m =>
      rw [hread] at h
      cases h
      rw [Numeral.readRaw, Numeral.readAs, hsign] at hread
      simp only at hread
      split at hread
      · cases hread
      · split at hread
        · cases hread
        · split at hread
          · cases hread
            exact Int.natCast_nonneg _
          · cases hread
  · cases h

/-- An integer of a value that may be read is not below all that can be written. -/
theorem Schema.lt_of_integer {v : Value} (hv : v.Readable) (hraw : v.raw? = none) {n : Int}
    (h : integer v = .valid n) : -10 ^ Numeral.digitLimit < n := by
  cases hv with
  | int hn =>
    cases h
    exact Numeral.lt_of_fits hn
  | bool b =>
    cases h
    exact Numeral.lt_of_fits (by cases b <;> decide)
  | float hx =>
    rw [integer, integerOfFloat] at h
    split at h
    · cases h
    · split at h
      · cases h
      · split at h
        · rename_i q _ _ hq
          cases h
          have hlimit : floatLimit < 10 ^ 19 := by decide
          exact Numeral.lt_of_fits (Numeral.fits_of_lt (lt_trans hq hlimit) (by decide))
        · cases h
  | str s => cases hraw
  | illFormed points => cases hraw
  | _ => cases h

theorem Amount.lt_of_quantity {v : Value} (hv : v.Readable) {n : Int}
    (h : quantity [] v = .valid n) : -10 ^ Numeral.digitLimit < n := by
  have hbound : (0 : Int) < 10 ^ Numeral.digitLimit := pow_pos (by decide) _
  have hwithin {w : Value} (hw : Schema.integerWithin [] w = .valid n) :
      Schema.integer w = .valid n := by
    obtain ⟨m, hm, hvalid⟩ := Schema.Checked.andThen_eq_valid.mp hw
    cases hvalid
    exact hm
  rw [quantity, readingText] at h
  cases hraw : v.raw? with
  | none =>
    rw [hraw] at h
    exact Schema.lt_of_integer hv hraw (hwithin h)
  | some raw =>
    rw [hraw] at h
    simp only at h
    split at h
    · rename_i m hm
      cases hwithin h
      have hnonneg := nonneg_of_readQuantity hm
      omega
    · cases h

namespace Remote

open Schema

/-- A transfer that is accepted gives its amount as a quantity. -/
theorem Transfer.lt_value_of_decode {v : Value} (hv : v.Readable) {transfer : Transfer}
    (h : Transfer.decode v = .valid transfer) : -10 ^ Numeral.digitLimit < transfer.value := by
  obtain ⟨entries, rfl, hfields⟩ := record_eq_valid.mp h
  simp only [Checked.seq_eq_valid, Checked.map_eq_valid] at hfields
  obtain ⟨_, _, ⟨_, _, ⟨_, _, ⟨_, _, ⟨_, _, rfl⟩, _, rfl⟩, _, rfl⟩, hvalue, rfl⟩, _, rfl⟩ := hfields
  obtain ⟨_, w, hfind, hquantity⟩ := required_eq_valid.mp hvalue
  obtain ⟨key, hmem⟩ := Field.mem_of_find? hfind
  cases hv with
  | map hentries => exact Amount.lt_of_quantity (hentries _ hmem) hquantity

/-- So does each transfer of a block that is accepted. -/
theorem Block.lt_value_of_decode {v : Value} (hv : v.Readable) {block : Block}
    (h : Block.decode v = .valid block) :
    ∀ transfer ∈ block.transfers, -10 ^ Numeral.digitLimit < transfer.value := by
  obtain ⟨entries, rfl, hfields⟩ := record_eq_valid.mp h
  simp only [Checked.seq_eq_valid, Checked.map_eq_valid] at hfields
  obtain ⟨_, _, ⟨_, _, ⟨_, _, ⟨_, _, rfl⟩, _, rfl⟩, _, rfl⟩, htransfers, rfl⟩ := hfields
  rcases defaulted_eq_valid.mp htransfers with ⟨_, w, hfind, hlist⟩ | ⟨_, rfl⟩
  · obtain ⟨items, rfl, hitems⟩ := listOf_eq_valid.mp hlist
    obtain ⟨key, hmem⟩ := Field.mem_of_find? hfind
    intro transfer htransfer
    have hdecoded : Checked.valid transfer ∈ items.map Transfer.decode := by
      rw [hitems]
      exact List.mem_map_of_mem htransfer
    obtain ⟨item, hitem, hvalid⟩ := List.mem_map.mp hdecoded
    cases hv with
    | map hentries =>
      cases hentries _ hmem with
      | list hreadable => exact Transfer.lt_value_of_decode (hreadable item hitem) hvalid
  · simp

end Remote

end IntentGateway
