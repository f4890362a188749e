import IntentGateway.Amount.Wire
import IntentGateway.Store.Basic
import Mathlib.Algebra.Group.Nat.Defs
import Mathlib.Data.List.Induction
import Mathlib.Data.Nat.Init

/-! # Decimal texts of integers

An integer has few enough digits to be written exactly if it is below a power of ten, so whatever
fits a column has, and so has whatever was read from few enough digits. The decimal text of an
integer that is not negative reads back to it.
-/

namespace IntentGateway.Numeral

/-! ## How many digits an integer has -/

/-- An integer can be written exactly if its magnitude is below a power of ten. -/
theorem fits_iff {n : Int} : fits n = true ↔ n.natAbs < 10 ^ digitLimit := by
  rw [fits, decide_eq_true_iff, Nat.length_toDigits_le_iff (by omega) (by decide)]

theorem fits_of_natAbs_le {m n : Int} (hn : fits n = true) (h : m.natAbs ≤ n.natAbs) :
    fits m = true :=
  fits_iff.mpr (Nat.lt_of_le_of_lt h (fits_iff.mp hn))

/-- What is below a smaller power of ten can be written. -/
theorem fits_of_lt {n : Int} {k : ℕ} (h : n.natAbs < 10 ^ k) (hk : k ≤ digitLimit) :
    fits n = true :=
  fits_iff.mpr (Nat.lt_of_lt_of_le h (Nat.pow_le_pow_right (by omega) hk))

/-- Every integer of 256 bits can be written. -/
theorem fits_of_lt_two_pow {n : Int} (h : n.natAbs < 2 ^ 256) : fits n = true := by
  refine fits_of_lt (k := 256) (Nat.lt_of_lt_of_le h ?_) (by decide)
  exact Nat.pow_le_pow_left (by omega) 256

/-- What fits a column can be written. -/
theorem fits_of_fitsColumn {n : Int} (h : Store.fitsColumn n = true) : fits n = true := by
  rw [Store.fitsColumn, Bool.and_eq_true, decide_eq_true_iff, decide_eq_true_iff,
    Store.columnLimit] at h
  exact fits_of_lt (k := 19) (by omega) (by decide)

theorem fits_signed {negative : Bool} {n : ℕ} : fits (signed negative n) = fits n := by
  cases negative <;> simp [fits, signed]

/-- The places of the ASCII digits. -/
theorem toNat_of_isDigit {c : Char} (h : c.isDigit = true) : 48 ≤ c.toNat ∧ c.toNat ≤ 57 :=
  Char.isDigit_iff_toNat.mp h

/-- A number of so many digits is below that power of ten. -/
theorem ofAsciiDigits_lt {digits : List Char} (h : ∀ c ∈ digits, c.isDigit = true) :
    ofAsciiDigits digits < 10 ^ digits.length := by
  induction digits with
  | nil => decide
  | cons c digits ih =>
    have hrest := ih fun d hd => h d (List.mem_cons_of_mem c hd)
    have hc := toNat_of_isDigit (h c List.mem_cons_self)
    have hzero : '0'.toNat = 48 := rfl
    rw [ofAsciiDigits] at hrest ⊢
    rw [Nat.ofDigitChars_cons, Nat.ofDigitChars_eq_ofDigitChars_zero, List.length_cons,
      Nat.pow_succ]
    have hdigit : 10 * 0 + (c.toNat - '0'.toNat) ≤ 9 := by omega
    have hlead := Nat.mul_le_mul_left (10 ^ digits.length) hdigit
    omega

/-- Few enough digits make a number that can be written. -/
theorem fits_ofAsciiDigits {digits : List Char} (h : ∀ c ∈ digits, c.isDigit = true)
    (hlength : digits.length ≤ digitLimit) : fits (ofAsciiDigits digits) = true :=
  fits_of_lt (ofAsciiDigits_lt h) hlength

/-! ## The digits of a natural number -/

theorem isDigit_of_mem_toDigits {n : ℕ} {c : Char} (h : c ∈ Nat.toDigits 10 n) :
    c.isDigit = true :=
  Nat.isDigit_of_mem_toDigits (by omega) (by omega) h

/-- The digits of a number are its value. -/
theorem ofAsciiDigits_toDigits (n : ℕ) : ofAsciiDigits (Nat.toDigits 10 n) = n :=
  Nat.ofDigitChars_ten_toDigits

/-- Only zero begins with a zero. -/
theorem head_toDigits_ne_zero {n : ℕ} (h : 0 < n) : (Nat.toDigits 10 n).head? ≠ some '0' := by
  induction n using Nat.strong_induction_on with
  | _ n ih =>
    rw [Nat.toDigits_eq_if (by omega)]
    split
    · rename_i hn
      have hdigit : ∀ d : Fin 10, 0 < d.val → Nat.digitChar d.val ≠ '0' := by decide
      simpa using hdigit ⟨n, hn⟩ h
    · rename_i hn
      have hmore : (Nat.toDigits 10 (n / 10)).head? ≠ none := by
        simp
      rw [List.head?_append, Option.or_of_isSome (Option.isSome_iff_ne_none.mpr hmore)]
      exact ih (n / 10) (by omega) (by omega)

/-- Digits behind others count for less by as many powers of ten. -/
theorem ofAsciiDigits_append (digits more : List Char) :
    ofAsciiDigits (digits ++ more)
      = 10 ^ more.length * ofAsciiDigits digits + ofAsciiDigits more := by
  rw [ofAsciiDigits, ofAsciiDigits, Nat.ofDigitChars_append, Nat.ofDigitChars_eq_ofDigitChars_zero]
  rfl

theorem ofAsciiDigits_zeros (k : ℕ) : ofAsciiDigits (List.replicate k '0') = 0 := by
  induction k with
  | zero => rfl
  | succ k ih =>
    rw [List.replicate_succ', ofAsciiDigits_append, ih]
    rfl

theorem ofAsciiDigits_concat (digits : List Char) (c : Char) :
    ofAsciiDigits (digits ++ [c]) = 10 * ofAsciiDigits digits + (c.toNat - 48) := by
  rw [ofAsciiDigits, ofAsciiDigits, Nat.ofDigitChars_append]
  rfl

theorem digitChar_of_isDigit {c : Char} (h : c.isDigit = true) :
    Nat.digitChar (c.toNat - 48) = c := by
  have hc := toNat_of_isDigit h
  have hdigits : ∀ k : Fin 10, Nat.digitChar k = Char.ofNat (48 + k) := by decide
  rw [hdigits ⟨c.toNat - 48, by omega⟩, Nat.add_sub_cancel' hc.1, Char.ofNat_toNat]

/-- Digits that do not begin with a needless zero are the digits of their value. -/
theorem toDigits_ofAsciiDigits {digits : List Char} (h : ∀ c ∈ digits, c.isDigit = true)
    (hne : digits ≠ []) (hplain : digits.head? = some '0' → digits = ['0']) :
    Nat.toDigits 10 (ofAsciiDigits digits) = digits := by
  induction digits using List.reverseRecOn with
  | nil => exact absurd rfl hne
  | append_singleton front c ih =>
    have hc : c.isDigit = true := h c (by simp)
    have hdigit : c.toNat - 48 < 10 := by
      have := toNat_of_isDigit hc
      omega
    rw [ofAsciiDigits_concat]
    obtain rfl | hfront := eq_or_ne front []
    · have hzero : 10 * ofAsciiDigits [] + (c.toNat - 48) = c.toNat - 48 := Nat.zero_add _
      rw [hzero, Nat.toDigits_of_lt_base hdigit, digitChar_of_isDigit hc, List.nil_append]
    · have hhead : front.head? ≠ some '0' := by
        intro hzero
        have hwhole := hplain (by rw [List.head?_append, hzero, Option.some_or])
        have hlength := congrArg List.length hwhole
        rw [List.length_append] at hlength
        exact hfront (List.length_eq_zero_iff.mp (by simpa using hlength))
      have hvalue := ih (fun d hd => h d (List.mem_append_left _ hd)) hfront
        fun hzero => absurd hzero hhead
      have hpos : 0 < ofAsciiDigits front := by
        apply Nat.pos_of_ne_zero
        intro hzero
        rw [hzero] at hvalue
        rw [← hvalue] at hhead
        exact hhead rfl
      rw [← Nat.toDigits_append_toDigits (by omega) hpos hdigit, hvalue,
        Nat.toDigits_of_lt_base hdigit, digitChar_of_isDigit hc]

/-! ## Reading decimal texts back -/

/-- An ASCII digit is a decimal digit, whose value is its distance from the zero. -/
theorem decimalValue?_of_isDigit {c : Char} (h : c.isDigit = true) :
    Text.decimalValue? c = some (c.toNat - 48) := by
  have hc := toNat_of_isDigit h
  have hrange : (decide (0x30 ≤ c.toNat) && decide (c.toNat < 0x30 + 10)) = true := by
    rw [Bool.and_eq_true, decide_eq_true_iff, decide_eq_true_iff]
    omega
  -- the digits of this script are looked for first
  rw [Text.decimalValue?, Text.zeroPoints, List.find?_cons, hrange]
  rfl

/-- Digits are read to their end. -/
theorem readDigits?_of_isDigit {digits : List Char} (h : ∀ c ∈ digits, c.isDigit = true)
    {due : Bool} (hdue : due = true → digits ≠ []) :
    readDigits? 10 due digits = some (digits.map fun c => c.toNat - 48, []) := by
  induction digits generalizing due with
  | nil =>
    cases due with
    | false => rfl
    | true => exact absurd rfl (hdue rfl)
  | cons c digits ih =>
    rw [readDigits?, digitValue?, decimalValue?_of_isDigit (h c List.mem_cons_self)]
    simp only
    have hrest : readDigits? 10 false digits = some (digits.map fun c => c.toNat - 48, []) :=
      ih (fun d hd => h d (List.mem_cons_of_mem c hd)) (by simp)
    rw [hrest]
    rfl

theorem ofDigits_map_toNat (digits : List Char) :
    ofDigits 10 (digits.map fun c => c.toNat - 48) = ofAsciiDigits digits := by
  rw [ofDigits, ofAsciiDigits, Nat.ofDigitChars_eq_foldl, List.foldl_map]
  rfl

/-- A digit is neither a sign nor white space. -/
theorem not_special_of_isDigit {c : Char} (h : c.isDigit = true) :
    c ≠ '-' ∧ c ≠ '+' ∧ Text.isSpace c = false := by
  have hc := toNat_of_isDigit h
  refine ⟨?_, ?_, ?_⟩
  · rintro rfl
    exact absurd h (by decide)
  · rintro rfl
    exact absurd h (by decide)
  · rw [Bool.eq_false_iff]
    simp only [Text.isSpace, Text.inRanges, Text.spaceRanges, List.any_cons, List.any_nil,
      Bool.or_eq_true, Bool.and_eq_true, decide_eq_true_iff, ne_eq, Bool.false_eq_true, or_false]
    omega

/-- Digits are read as their value, unless there are too many of them. -/
theorem readAs_digits {digits : List Char} (h : ∀ c ∈ digits, c.isDigit = true)
    (hne : digits ≠ []) (shown : List Char) :
    readAs 10 shown digits =
      if digitLimit < digits.length then .error (.tooLong digits.length)
      else .ok (ofAsciiDigits digits) := by
  obtain ⟨c, rest, rfl⟩ := List.exists_cons_of_ne_nil hne
  obtain ⟨hminus, hplus, hspace⟩ := not_special_of_isDigit (h c List.mem_cons_self)
  have hdrop : (c :: rest).dropWhile Text.isSpace = c :: rest := by
    rw [List.dropWhile_cons_of_neg (by simp [hspace])]
  have hsign : splitSign (c :: rest) = (false, c :: rest) := by
    rw [splitSign] <;> simp [hminus, hplus]
  have hmarker : dropBaseMarker 10 (c :: rest) = c :: rest := rfl
  rw [readAs, hdrop, hsign]
  simp only [hmarker]
  rw [readDigits?_of_isDigit h fun _ => hne]
  simp only [List.length_map, List.all_nil, if_true, true_and]
  rw [ofDigits_map_toNat]
  rfl

/-- The digits of a number that can be written read back to it. -/
theorem readAs_of_isDigit {digits : List Char} (h : ∀ c ∈ digits, c.isDigit = true)
    (hne : digits ≠ []) (hlength : digits.length ≤ digitLimit) (shown : List Char) :
    readAs 10 shown digits = .ok (ofAsciiDigits digits) := by
  rw [readAs_digits h hne, if_neg (by omega)]

/-- The decimal text of an integer that is not negative is its digits. -/
theorem decimalChars_of_nonneg {n : Int} (h : 0 ≤ n) :
    decimalChars n = Nat.toDigits 10 n.natAbs := by
  rw [decimalChars, if_neg (by omega)]

/-- The decimal text of an integer that is not negative reads back to it. -/
theorem readRaw_decimalText {n : Int} (hn : 0 ≤ n) (h : fits n = true) :
    readRaw 10 (.text (decimalText n)) = .ok n := by
  rw [fits, decide_eq_true_iff] at h
  rw [readRaw, RawText.chars, decimalText, String.toList_ofList, decimalChars_of_nonneg hn,
    readAs_of_isDigit (fun c hc => isDigit_of_mem_toDigits hc) Nat.toDigits_ne_nil h,
    ofAsciiDigits_toDigits, Int.natAbs_of_nonneg hn]

end IntentGateway.Numeral

namespace IntentGateway.Amount

/-- A request for an amount takes the decimal text of one. -/
theorem readDecimal_decimalText {n : Int} (hn : 0 ≤ n) (h : Numeral.fits n = true) :
    readDecimal (.text (Numeral.decimalText n)) = .ok n := by
  have hchars : (RawText.text (Numeral.decimalText n)).chars = Nat.toDigits 10 n.natAbs := by
    rw [RawText.chars, Numeral.decimalText, String.toList_ofList, Numeral.decimalChars_of_nonneg hn]
  have hall : (Nat.toDigits 10 n.natAbs).all Text.isDigitSign = true := by
    rw [List.all_eq_true]
    intro c hc
    rw [Text.isDigitSign, Numeral.decimalValue?_of_isDigit (Numeral.isDigit_of_mem_toDigits hc)]
    rfl
  have hempty : (RawText.text (Numeral.decimalText n)).isEmpty = false := by
    rw [RawText.isEmpty, Bool.eq_false_iff, ne_eq, String.isEmpty_iff, ← String.toList_eq_nil_iff]
    rw [RawText.chars] at hchars
    rw [hchars]
    exact Nat.toDigits_ne_nil
  rw [readDecimal, hchars, hall, hempty, Numeral.readRaw_decimalText hn h]
  rfl

end IntentGateway.Amount
