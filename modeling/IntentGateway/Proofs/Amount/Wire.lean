import IntentGateway.Amount.Wire
import IntentGateway.Proofs.Numeral.Spelling

/-! # The texts of amounts

A decimal amount is a text of decimal digits of any script, neither none nor too many. A quantity is
a text of hexadecimal digits behind a marker, with single underscores between digits or between the
marker and the first of them, and perhaps with white space behind it all. Both readers take exactly
these texts (`Amount.takesExactly_decimal`, `Amount.takesExactly_quantity`), although they leave the
reading to a reader of integers that takes signs, white space and underscores: what they look at
before leaves no place for a sign. So no text gives a negative amount. Every other text is refused
in words.
-/

namespace IntentGateway

namespace Amount

open Numeral (Grouped Spells SpellsMagnitude)

/-! ## Forms of amounts -/

/-- Whether a text is the decimal text of an amount. -/
def DenotesDecimal (raw : RawText) (n : Int) : Prop :=
  ∃ digits : List ℕ, List.Forall₂ (fun c d => Text.decimalValue? c = some d) raw.chars digits
    ∧ 1 ≤ digits.length ∧ digits.length ≤ Numeral.digitLimit ∧ n = Numeral.ofDigits 10 digits

/-- The markers of a quantity. -/
def quantityMarkers : List (List Char) :=
  [['0', 'x'], ['0', 'X'], ['0', 'x', '_'], ['0', 'X', '_']]

/-- Whether a text is a quantity. -/
def DenotesQuantity (raw : RawText) (n : Int) : Prop :=
  ∃ marker ∈ quantityMarkers, ∃ body digits after, raw.chars = marker ++ (body ++ after)
    ∧ Grouped 16 body digits ∧ (∀ c ∈ after, Text.isSpace c = true)
    ∧ n = Numeral.ofDigits 16 digits

/-- Whether of all texts a decoder takes exactly those that denote an amount, which is never
negative, and refuses every other text in words. -/
structure TakesExactly (decode : Schema.Decoder Int) (Denotes : RawText → Int → Prop) : Prop where
  accepts : ∀ raw n, decode (.ofRaw raw) = .valid n ↔ Denotes raw n
  nonneg : ∀ raw n, Denotes raw n → 0 ≤ n
  refuses : ∀ raw, (∀ n, ¬ Denotes raw n) →
    ∃ message, decode (.ofRaw raw) = .fault (.refused message) (.ofRaw raw)

/-- A decoder takes the texts that its reader takes. -/
theorem takesExactly_of_read {read : RawText → Except String Int}
    {Denotes : RawText → Int → Prop} (hread : ∀ raw n, read raw = .ok n ↔ Denotes raw n)
    (hnonneg : ∀ raw n, Denotes raw n → 0 ≤ n) :
    TakesExactly (readingText read []) Denotes := by
  have haccepted {raw : RawText} {n : Int} (h : read raw = .ok n) :
      readingText read [] (.ofRaw raw) = .valid n := by
    simp only [readingText, Value.raw?_ofRaw, h]
    rfl
  have hrefused {raw : RawText} {message : String} (h : read raw = .error message) :
      readingText read [] (.ofRaw raw) = .fault (.refused message) (.ofRaw raw) := by
    simp only [readingText, Value.raw?_ofRaw, h]
  refine ⟨fun raw n => ?_, hnonneg, fun raw hnone => ?_⟩
  · rw [← hread]
    refine ⟨fun hvalid => ?_, haccepted⟩
    cases hraw : read raw with
    | ok m =>
      rw [haccepted hraw] at hvalid
      cases hvalid
      rfl
    | error message =>
      rw [hrefused hraw] at hvalid
      cases hvalid
  · cases hraw : read raw with
    | ok m => exact absurd ((hread raw m).mp hraw) (hnone m)
    | error message => exact ⟨message, hrefused hraw⟩

theorem worded_eq_ok_iff {result : Except Numeral.Error Int} {n : Int} :
    worded result = .ok n ↔ result = .ok n := by
  cases result <;> simp [worded]

/-! ## Decimal amounts -/

/-- A decimal digit is a digit in base ten. -/
theorem digitValue?_ten (c : Char) : Numeral.digitValue? 10 c = Text.decimalValue? c := by
  rw [Numeral.digitValue?]
  cases Text.decimalValue? c <;> rfl

/-- No mark in the text of an integer shows a digit. -/
theorem isDigitSign_of_mem_marks : ∀ c ∈ Numeral.marks, Text.isDigitSign c = false :=
  List.all_iff_forall_prop.mp (by decide)

theorem not_mem_marks_of_isDigitSign {c : Char} (h : Text.isDigitSign c = true) :
    c ∉ Numeral.marks := by
  intro hc
  rw [isDigitSign_of_mem_marks c hc] at h
  cases h

/-- A run of decimal digits shows digits only. -/
theorem isDigitSign_of_forall₂ {text : List Char} {digits : List ℕ}
    (h : List.Forall₂ (fun c d => Text.decimalValue? c = some d) text digits) :
    ∀ c ∈ text, Text.isDigitSign c = true := by
  induction h with
  | nil => exact nofun
  | cons hc _ ih =>
    exact List.forall_mem_cons.mpr ⟨Text.isDigitSign_of_decimalValue? hc, ih⟩

/-- A text that shows digits only spells an integer exactly if it is a decimal amount. -/
theorem spells_iff_denotesDecimal {raw : RawText} {n : Int} (hne : raw.chars ≠ [])
    (hsigns : ∀ c ∈ raw.chars, Text.isDigitSign c = true) :
    Spells 10 raw.chars n ↔ DenotesDecimal raw n := by
  rw [DenotesDecimal]
  obtain ⟨c, rest, hchars⟩ := List.exists_cons_of_ne_nil hne
  rw [hchars] at hsigns ⊢
  have hc := hsigns c List.mem_cons_self
  obtain ⟨hplus, hminus⟩ := Numeral.ne_sign_of_not_mem_marks (not_mem_marks_of_isDigitSign hc)
  rw [Numeral.spells_cons_iff (Text.isSpace_of_isDigitSign hc) hplus hminus]
  constructor
  · rintro ⟨_, ⟨marker, hmarker, body, digits, after, htext, hbody, hafter, hfew, rfl⟩, rfl⟩
    obtain rfl : marker = [] := List.mem_singleton.mp hmarker
    -- white space behind the digits would show a digit too
    obtain rfl : after = [] := by
      refine List.eq_nil_iff_forall_not_mem.mpr fun d hd => ?_
      have hsign := hsigns d (by rw [htext]; simp [hd])
      have hspace := hafter d hd
      rw [Text.isSpace_of_isDigitSign hsign] at hspace
      cases hspace
    rw [List.nil_append, List.append_nil] at htext
    have hplain : '_' ∉ body := fun hmem =>
      not_mem_marks_of_isDigitSign (hsigns '_' (htext ▸ hmem)) (by decide)
    have hdigits := hbody.forall₂ hplain
    simp only [digitValue?_ten] at hdigits
    refine ⟨digits, htext ▸ hdigits, ?_, hfew rfl, rfl⟩
    rw [← hdigits.length_eq, ← htext, List.length_cons]
    omega
  · rintro ⟨digits, hdigits, -, hfew, rfl⟩
    have hbody : Grouped 10 (c :: rest) digits :=
      .of_forall₂ (by simpa only [digitValue?_ten] using hdigits) (List.cons_ne_nil c rest)
    exact ⟨_, ⟨[], by simp [Numeral.markersOf], c :: rest, digits, [], by simp, hbody,
      List.forall_mem_nil _, fun _ => hfew, rfl⟩, rfl⟩

/-- The texts that are read as a decimal amount. -/
theorem readDecimal_eq_ok_iff {raw : RawText} {n : Int} :
    readDecimal raw = .ok n ↔ DenotesDecimal raw n := by
  have hempty : raw.isEmpty = true ↔ raw.chars = [] := by
    cases raw <;> simp [RawText.isEmpty, RawText.chars]
  have hlook : (!raw.isEmpty && raw.chars.all Text.isDigitSign) = true
      ↔ raw.chars ≠ [] ∧ ∀ c ∈ raw.chars, Text.isDigitSign c = true := by
    rw [Bool.and_eq_true, Bool.not_eq_true', Bool.eq_false_iff, ne_eq, hempty, List.all_eq_true]
  rw [readDecimal]
  split
  · rename_i h
    obtain ⟨hne, hsigns⟩ := hlook.mp h
    rw [worded_eq_ok_iff, ← spells_iff_denotesDecimal hne hsigns]
    exact Numeral.readAs_eq_ok_iff
  · rename_i h
    constructor
    · intro hread
      cases hread
    · rintro ⟨digits, hdigits, hsome, -⟩
      refine absurd (hlook.mpr ⟨fun hnil => ?_, isDigitSign_of_forall₂ hdigits⟩) h
      rw [← hdigits.length_eq, hnil] at hsome
      exact absurd hsome (by decide)

theorem takesExactly_decimal : TakesExactly (decimal []) DenotesDecimal := by
  refine takesExactly_of_read (fun _ _ => readDecimal_eq_ok_iff) ?_
  rintro raw n ⟨digits, -, -, -, rfl⟩
  exact Int.natCast_nonneg _

/-! ## Quantities -/

theorem exists_cons_of_hasHexMarker {text : List Char} (h : Text.hasHexMarker text = true) :
    ∃ rest, text = '0' :: rest := by
  rw [Text.hasHexMarker.eq_def] at h
  split at h
  · exact ⟨_, rfl⟩
  · exact ⟨_, rfl⟩
  · cases h

/-- Behind the marker of a quantity, an integer is spelled without a sign. -/
theorem denotesQuantity_iff {raw : RawText} {n : Int} :
    DenotesQuantity raw n ↔ Text.hasHexMarker raw.chars = true ∧ Spells 16 raw.chars n := by
  have hspells {rest : List Char} :
      Spells 16 ('0' :: rest) n ↔ ∃ m : ℕ, SpellsMagnitude 16 ('0' :: rest) m ∧ n = m :=
    Numeral.spells_cons_iff (by decide) (by decide) (by decide)
  rw [DenotesQuantity]
  constructor
  · rintro ⟨marker, hmarker, body, digits, after, hchars, hbody, hafter, hn⟩
    have hmagnitude : SpellsMagnitude 16 raw.chars (Numeral.ofDigits 16 digits) :=
      ⟨marker, List.mem_cons_of_mem _ hmarker, body, digits, after, hchars, hbody, hafter, nofun,
        rfl⟩
    have hmark : Text.hasHexMarker raw.chars = true := by
      rw [hchars]
      simp only [quantityMarkers, List.mem_cons, List.not_mem_nil, or_false] at hmarker
      obtain rfl | rfl | rfl | rfl := hmarker <;> rfl
    obtain ⟨rest, hrest⟩ := exists_cons_of_hasHexMarker hmark
    rw [hrest] at hmagnitude hmark ⊢
    exact ⟨hmark, hspells.mpr ⟨_, hmagnitude, hn⟩⟩
  · rintro ⟨hmark, h⟩
    obtain ⟨rest, hrest⟩ := exists_cons_of_hasHexMarker hmark
    rw [hrest] at h
    obtain ⟨_, ⟨marker, hmarker, body, digits, after, htext, hbody, hafter, -, rfl⟩, rfl⟩ :=
      hspells.mp h
    rw [← hrest] at htext
    refine ⟨marker, (List.mem_cons.mp hmarker).resolve_left ?_, body, digits, after, htext, hbody,
      hafter, rfl⟩
    -- digits alone do not look like a quantity
    rintro rfl
    rw [htext, List.nil_append, hbody.hasHexMarker_append hafter] at hmark
    cases hmark

/-- The texts that are read as a quantity. -/
theorem readQuantity_eq_ok_iff {raw : RawText} {n : Int} :
    readQuantity raw = .ok n ↔ DenotesQuantity raw n := by
  have hread : Numeral.readRaw 16 raw = .ok n ↔ Spells 16 raw.chars n := Numeral.readAs_eq_ok_iff
  rw [denotesQuantity_iff, readQuantity]
  split
  · rename_i hmarker
    rw [worded_eq_ok_iff, hread, and_iff_right hmarker]
  · rename_i hmarker
    constructor
    · intro hread
      cases hread
    · exact fun h => absurd h.1 hmarker

theorem takesExactly_quantity : TakesExactly (quantity []) DenotesQuantity := by
  refine takesExactly_of_read (fun _ _ => readQuantity_eq_ok_iff) ?_
  rintro raw n ⟨marker, -, body, digits, after, -, -, -, rfl⟩
  exact Int.natCast_nonneg _

/-- The hexadecimal text of an integer that is not negative is a quantity. -/
theorem denotesQuantity_hexText {n : Int} (h : 0 ≤ n) :
    DenotesQuantity (.text (Numeral.hexText n)) n := by
  refine denotesQuantity_iff.mpr ⟨?_, Numeral.spells_hexText n⟩
  rw [RawText.chars, Numeral.hexText, String.toList_ofList, if_neg (by omega)]
  rfl

end Amount

end IntentGateway
