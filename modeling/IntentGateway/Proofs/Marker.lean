import IntentGateway.Marker
import IntentGateway.Proofs.Numeral.Decimal
import IntentGateway.Proofs.Text.Hex

/-! # What payment markers name

A marker is the lead and one to twenty digits; it names the number that the digits make. The bytes
that name an intent are exactly the markers that name it, and the marker that is made for an intent
is the one among them whose digits do not begin with a needless zero. An intent of more than twenty
digits has a marker that names nothing.
-/

namespace IntentGateway.Marker

/-- The digits of a marker, which name an intent. -/
structure Names (digits : List Char) (id : ℕ) : Prop where
  digit : ∀ c ∈ digits, c.isDigit = true
  some_digit : 1 ≤ digits.length
  few : digits.length ≤ maxDigits
  value : Numeral.ofAsciiDigits digits = id

/-- Bytes are a marker of an intent. -/
def IsMarker (bytes : List UInt8) (id : ℕ) : Prop :=
  ∃ digits, Names digits id ∧ bytes = asciiBytes (lead ++ digits)

/-- Digits do not begin with a needless zero. -/
def Plain (digits : List Char) : Prop :=
  digits.head? = some '0' → digits = ['0']

/-! ## Bytes of digits -/

theorem asciiBytes_append (text more : List Char) :
    asciiBytes (text ++ more) = asciiBytes text ++ asciiBytes more :=
  List.map_append

theorem length_asciiBytes (text : List Char) : (asciiBytes text).length = text.length :=
  List.length_map _

/-- The byte of a digit. -/
theorem toNat_ofNat_of_isDigit {c : Char} (h : c.isDigit = true) :
    (UInt8.ofNat c.toNat).toNat = c.toNat := by
  have hc := Numeral.toNat_of_isDigit h
  exact Nat.mod_eq_of_lt (by omega)

theorem digit?_of_isDigit {c : Char} (h : c.isDigit = true) :
    digit? (UInt8.ofNat c.toNat) = some (c.toNat - 48) := by
  rw [digit?, toNat_ofNat_of_isDigit h, if_pos (Numeral.toNat_of_isDigit h)]

/-- A byte that is a digit is that of a character that is one. -/
theorem exists_of_digit? {byte : UInt8} {value : ℕ} (h : digit? byte = some value) :
    ∃ c : Char, c.isDigit = true ∧ byte = UInt8.ofNat c.toNat := by
  rw [digit?] at h
  split at h
  · rename_i hbyte
    have hdigits : ∀ k : Fin 10, (Nat.digitChar k).isDigit = true ∧
        UInt8.ofNat (48 + k) = UInt8.ofNat (Nat.digitChar k).toNat := by
      decide
    obtain ⟨hdigit, hplace⟩ := hdigits ⟨byte.toNat - 48, by omega⟩
    rw [Nat.add_sub_cancel' hbyte.1, UInt8.ofNat_toNat] at hplace
    exact ⟨_, hdigit, hplace⟩
  · cases h

/-- Digits have different bytes. -/
theorem asciiBytes_inj {digits other : List Char} (hdigits : ∀ c ∈ digits, c.isDigit = true)
    (hother : ∀ c ∈ other, c.isDigit = true) (h : asciiBytes digits = asciiBytes other) :
    digits = other := by
  induction digits generalizing other with
  | nil =>
    cases other with
    | nil => rfl
    | cons d other => cases h
  | cons c digits ih =>
    cases other with
    | nil => cases h
    | cons d other =>
      obtain ⟨hbyte, hrest⟩ := List.cons_eq_cons.mp h
      have hplace := congrArg UInt8.toNat hbyte
      rw [toNat_ofNat_of_isDigit (hdigits c List.mem_cons_self),
        toNat_ofNat_of_isDigit (hother d List.mem_cons_self)] at hplace
      rw [Char.toNat_inj.mp hplace,
        ih (fun c hc => hdigits c (List.mem_cons_of_mem _ hc))
          (fun d hd => hother d (List.mem_cons_of_mem _ hd)) hrest]

theorem mapM_digit?_of_isDigit {digits : List Char} (h : ∀ c ∈ digits, c.isDigit = true) :
    (asciiBytes digits).mapM digit? = some (digits.map fun c => c.toNat - 48) := by
  induction digits with
  | nil => rfl
  | cons c digits ih =>
    have hrest := ih fun d hd => h d (List.mem_cons_of_mem c hd)
    rw [asciiBytes] at hrest ⊢
    rw [List.map_cons, List.mapM_cons, digit?_of_isDigit (h c List.mem_cons_self), hrest]
    rfl

theorem exists_of_mapM_digit? {bytes : List UInt8} {values : List ℕ}
    (h : bytes.mapM digit? = some values) :
    ∃ digits, (∀ c ∈ digits, c.isDigit = true) ∧ bytes = asciiBytes digits := by
  induction bytes generalizing values with
  | nil => exact ⟨[], by simp, rfl⟩
  | cons byte bytes ih =>
    rw [List.mapM_cons] at h
    cases hbyte : digit? byte with
    | none =>
      rw [hbyte] at h
      cases h
    | some value =>
      cases hrest : bytes.mapM digit? with
      | none =>
        rw [hbyte, hrest] at h
        cases h
      | some rest =>
        obtain ⟨c, hc, rfl⟩ := exists_of_digit? hbyte
        obtain ⟨digits, hdigits, rfl⟩ := ih hrest
        exact ⟨c :: digits, List.forall_mem_cons.mpr ⟨hc, hdigits⟩, rfl⟩

/-! ## Reading markers -/

/-- Behind the lead digits are read, if there are some and not too many of them. -/
theorem decode_of_isDigit {digits : List Char} (h : ∀ c ∈ digits, c.isDigit = true) :
    decode (asciiBytes (lead ++ digits)) =
      if 1 ≤ digits.length ∧ digits.length ≤ maxDigits then some (Numeral.ofAsciiDigits digits)
      else none := by
  have hdrop : Text.dropStart? (asciiBytes lead) (asciiBytes (lead ++ digits)) =
      some (asciiBytes digits) :=
    Text.dropStart?_eq_some_iff.mpr (asciiBytes_append lead digits)
  rw [decode, hdrop]
  simp only [List.isEmpty_iff_length_eq_zero, length_asciiBytes, Bool.or_eq_true,
    decide_eq_true_iff, mapM_digit?_of_isDigit h, Option.map_some, Numeral.ofDigits_map_toNat]
  split_ifs with hnone hsome hsome
  · omega
  · rfl
  · rfl
  · omega

/-- The markers of an intent, and nothing else, name it. -/
theorem decode_eq_some {bytes : List UInt8} {id : ℕ} :
    decode bytes = some id ↔ IsMarker bytes id := by
  constructor
  · intro h
    cases hdrop : Text.dropStart? (asciiBytes lead) bytes with
    | none =>
      rw [decode, hdrop] at h
      cases h
    | some suffix =>
      have hbytes := Text.dropStart?_eq_some_iff.mp hdrop
      have hdigits : ∃ values, suffix.mapM digit? = some values := by
        rw [decode, hdrop] at h
        simp only at h
        split at h
        · cases h
        · obtain ⟨values, hvalues, -⟩ := Option.map_eq_some_iff.mp h
          exact ⟨values, hvalues⟩
      obtain ⟨values, hvalues⟩ := hdigits
      obtain ⟨digits, hdigit, rfl⟩ := exists_of_mapM_digit? hvalues
      rw [← asciiBytes_append] at hbytes
      rw [hbytes, decode_of_isDigit hdigit] at h
      split at h
      · rename_i hlength
        exact ⟨digits, ⟨hdigit, hlength.1, hlength.2, Option.some.inj h⟩, hbytes⟩
      · cases h
  · rintro ⟨digits, ⟨hdigit, hsome, hfew, rfl⟩, rfl⟩
    rw [decode_of_isDigit hdigit, if_pos ⟨hsome, hfew⟩]

/-- A string names what the bytes name that it denotes. -/
theorem ofData_str_eq_some {s : String} {id : ℕ} :
    ofData (.str s) = some id ↔
      ∃ bytes, Text.Denotes (Text.dropHexMarker s.toList) bytes ∧ decode bytes = some id := by
  rw [ofData, payload?, Option.bind_eq_some_iff]
  simp only [Text.bytesOfHex?_eq_some_iff]

/-! ## Making markers -/

theorem isDigit_toDigits (id : ℕ) : ∀ c ∈ Nat.toDigits 10 id, c.isDigit = true :=
  fun _ hc => Numeral.isDigit_of_mem_toDigits hc

/-- The marker of an intent names it, unless it has too many digits. -/
theorem decode_encode (id : ℕ) :
    decode (encode id) = if id < 10 ^ maxDigits then some id else none := by
  have hsome : 1 ≤ (Nat.toDigits 10 id).length := List.length_pos_iff.mpr Nat.toDigits_ne_nil
  have hfew : (Nat.toDigits 10 id).length ≤ maxDigits ↔ id < 10 ^ maxDigits :=
    Nat.length_toDigits_le_iff (by omega) (by decide)
  rw [encode, decode_of_isDigit (isDigit_toDigits id), Numeral.ofAsciiDigits_toDigits]
  simp only [hsome, hfew, true_and]

/-- The digits of a number do not begin with a needless zero. -/
theorem plain_toDigits (id : ℕ) : Plain (Nat.toDigits 10 id) := by
  intro hhead
  obtain rfl | hid := Nat.eq_zero_or_pos id
  · rfl
  · exact absurd hhead (Numeral.head_toDigits_ne_zero hid)

/-- The marker that is made for an intent has the digits of its number. -/
theorem encode_eq_iff {digits : List Char} {id : ℕ} (h : Names digits id) :
    encode id = asciiBytes (lead ++ digits) ↔ Plain digits := by
  have hne : digits ≠ [] := List.length_pos_iff.mp h.some_digit
  rw [encode, asciiBytes_append, asciiBytes_append, List.append_cancel_left_eq]
  constructor
  · intro hbytes
    rw [← asciiBytes_inj (isDigit_toDigits id) h.digit hbytes]
    exact plain_toDigits id
  · intro hplain
    rw [← h.value, Numeral.toDigits_ofAsciiDigits h.digit hne hplain]

section

variable [Nesting]

/-- An intent whose number can be written has a marker. -/
theorem ofId_int {id : ℕ} (h : id < 10 ^ Numeral.digitLimit) :
    ofId (.int id) = .ok (encode id) := by
  have hfits : Numeral.fits (id : Int) = true := Numeral.fits_iff.mpr h
  rw [ofId, if_neg (by omega), if_pos hfits]
  rfl

/-! ## Every form of data -/

/-- The forms that data has: bytes, a buffer, or hexadecimal text with or without `0x`. -/
def forms (bytes : List UInt8) : List Value :=
  [.bytes bytes, .buffer bytes, .str (String.ofList (Text.hexOfBytes bytes)),
    .str (String.ofList ('0' :: 'x' :: Text.hexOfBytes bytes))]

omit [Nesting] in
theorem ofData_of_mem_forms {bytes : List UInt8} {form : Value} (h : form ∈ forms bytes) :
    ofData form = decode bytes := by
  have hread := Text.bytesOfHex?_of_denotes (Text.denotes_hexOfBytes bytes)
  have hplain := Text.dropHexMarker_of_denotes (Text.denotes_hexOfBytes bytes)
  simp only [forms, List.mem_cons, List.not_mem_nil, or_false] at h
  obtain rfl | rfl | rfl | rfl := h
  · rfl
  · rfl
  · rw [ofData, payload?, String.toList_ofList, hplain, hread]
    rfl
  · rw [ofData, payload?, String.toList_ofList, Text.dropHexMarker, hread]
    rfl

/-- Data names an intent exactly if it is a marker of it, whatever its form: bytes, or a text that
denotes them behind at most one `0x`. The marker made for an intent of at most twenty digits names
it in every form, and that of a longer one names nothing. Of the markers of an intent it is the one
whose digits do not begin with a needless zero. -/
theorem names_exactly_its_markers :
    (∀ bytes id, ofData (.bytes bytes) = some id ↔ IsMarker bytes id) ∧
    (∀ bytes, ofData (.buffer bytes) = ofData (.bytes bytes)) ∧
    (∀ s id, ofData (.str s) = some id ↔
      ∃ marker ∈ Text.hexMarkers, ∃ digits bytes, s.toList = marker ++ digits ∧
        Text.Denotes digits bytes ∧ ofData (.bytes bytes) = some id) ∧
    (∀ points, ofData (.illFormed points) = none) ∧
    (∀ id : ℕ, id < 10 ^ Numeral.digitLimit → ∃ marker, ofId (.int id) = .ok marker ∧
      ∀ form ∈ forms marker, ofData form = if id < 10 ^ maxDigits then some id else none) ∧
    ∀ digits id, Names digits id →
      (ofId (.int id) = .ok (asciiBytes (lead ++ digits)) ↔ Plain digits) := by
  refine ⟨fun bytes id => decode_eq_some, fun bytes => rfl, ?_, fun points => rfl, ?_, ?_⟩
  · intro s id
    rw [ofData_str_eq_some]
    simp only [Text.denotes_dropHexMarker_iff]
    constructor
    · rintro ⟨bytes, ⟨marker, hmarker, digits, htext, hdenotes⟩, hbytes⟩
      exact ⟨marker, hmarker, digits, bytes, htext, hdenotes, hbytes⟩
    · rintro ⟨marker, hmarker, digits, bytes, htext, hdenotes, hbytes⟩
      exact ⟨bytes, ⟨marker, hmarker, digits, htext, hdenotes⟩, hbytes⟩
  · intro id hid
    refine ⟨encode id, ofId_int hid, ?_⟩
    intro form hform
    rw [ofData_of_mem_forms hform, decode_encode]
  · intro digits id hdigits
    have hid : id < 10 ^ Numeral.digitLimit := by
      rw [← hdigits.value]
      exact Nat.lt_of_lt_of_le (Numeral.ofAsciiDigits_lt hdigits.digit)
        (Nat.pow_le_pow_right (by omega) (Nat.le_trans hdigits.few (by decide)))
    rw [ofId_int hid, Except.ok.injEq, encode_eq_iff hdigits]

end

/-- The marker of the intent 42 names it in hexadecimal, and a zero in front of its digits makes
another marker of it. -/
theorem names_exactly_its_markers_of_forty_two :
    (∃ marker, ofId (.int (42 : ℕ)) = .ok marker ∧
      ofData (.str (String.ofList ('0' :: 'x' :: Text.hexOfBytes marker))) = some 42) ∧
    ofId (.int (42 : ℕ)) ≠ .ok (asciiBytes (lead ++ ['0', '4', '2'])) := by
  obtain ⟨-, -, -, -, hmade, hplain⟩ := names_exactly_its_markers
  have hid : 42 < 10 ^ Numeral.digitLimit :=
    Nat.lt_of_lt_of_le (by decide : 42 < 10 ^ 2) (Nat.pow_le_pow_right (by omega) (by decide))
  have hnames : Names ['0', '4', '2'] 42 :=
    ⟨List.all_eq_true.mp rfl, by decide, by decide, by decide⟩
  refine ⟨?_, ?_⟩
  · obtain ⟨marker, hmarker, hforms⟩ := hmade 42 hid
    exact ⟨marker, hmarker, hforms _ (by simp [forms])⟩
  · intro h
    exact absurd ((hplain _ 42 hnames).mp h rfl) (by decide)

end IntentGateway.Marker
