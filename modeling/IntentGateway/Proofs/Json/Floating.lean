import IntentGateway.Proofs.Binary64.Decimal
import IntentGateway.Proofs.Json.Lexing

/-! # Floating-point numbers as words

The text of a finite number is one word of a document and reads back to the number. In whatever
layout its shortest decimal is written, the word is read as digits with the point behind some of
them, which denote that decimal, if not with the same digits and the same power of ten.
-/

namespace IntentGateway.Binary64

/-! ## Digits with a point -/

/-- What digits denote with the point behind so many of them. -/
def pointed (digits : List Char) (integerDigits : Int) : Decimal where
  digits := Numeral.ofAsciiDigits digits
  exponent := integerDigits - digits.length

theorem toRat_pointed_append_zeros (digits : List Char) (k : ℕ) (integerDigits : Int) :
    (pointed (digits ++ List.replicate k '0') integerDigits).toRat
      = (pointed digits integerDigits).toRat := by
  have hexponent : integerDigits - digits.length = k + (integerDigits - (digits.length + k)) := by
    ring
  simp only [pointed, Decimal.toRat, Numeral.ofAsciiDigits_append, Numeral.ofAsciiDigits_zeros,
    List.length_append, List.length_replicate, add_zero]
  push_cast
  rw [hexponent, zpow_add₀ (by norm_num), zpow_natCast]
  ring

theorem pointed_zeros_append (digits : List Char) (k : ℕ) (integerDigits : Int) :
    pointed (List.replicate k '0' ++ digits) integerDigits
      = pointed digits (integerDigits - k) := by
  have hvalue : Numeral.ofAsciiDigits (List.replicate k '0' ++ digits)
      = Numeral.ofAsciiDigits digits := by
    rw [Numeral.ofAsciiDigits_append, Numeral.ofAsciiDigits_zeros, mul_zero, zero_add]
  rw [pointed, pointed, hvalue, Decimal.mk.injEq, List.length_append, List.length_replicate]
  exact ⟨rfl, by omega⟩

/-- What is left out of the digits of a decimal are zeros at their end. -/
theorem exists_zeros_significantDigits (d : Decimal) :
    ∃ k, Nat.toDigits 10 d.digits = significantDigits d ++ List.replicate k '0' := by
  let zeros := (Nat.toDigits 10 d.digits).reverse.takeWhile (· = '0')
  have hall : ∀ c ∈ zeros.reverse, c = '0' := by
    intro c hc
    simpa using List.mem_takeWhile_imp (List.mem_reverse.mp hc)
  have hzeros : zeros.reverse = List.replicate zeros.reverse.length '0' :=
    List.eq_replicate_of_mem hall
  refine ⟨zeros.reverse.length, ?_⟩
  rw [← hzeros, significantDigits, ← List.reverse_append, List.takeWhile_append_dropWhile,
    List.reverse_reverse]

/-- The significant digits of a decimal denote it, with the point where its own digits have it. -/
theorem toRat_significantDigits (d : Decimal) :
    (pointed (significantDigits d) ((Nat.toDigits 10 d.digits).length + d.exponent)).toRat
      = d.toRat := by
  obtain ⟨k, hk⟩ := exists_zeros_significantDigits d
  rw [← toRat_pointed_append_zeros _ k, ← hk, pointed, Numeral.ofAsciiDigits_toDigits,
    add_sub_cancel_left]

end IntentGateway.Binary64

namespace IntentGateway.Json

open Binary64 (Decimal pointed significantDigits positional scientific layout)

theorem leadingDigits_significantDigits {d : Decimal} (h : d.digits ≠ 0) :
    LeadingDigits (significantDigits d) := by
  obtain ⟨k, hk⟩ := Binary64.exists_zeros_significantDigits d
  have hdigits := leadingDigits_toDigits h
  rw [hk] at hdigits
  have hne : significantDigits d ≠ [] := by
    intro hnil
    rw [hnil, List.nil_append] at hdigits
    cases k with
    | zero => exact hdigits.ne_nil rfl
    | succ k => exact hdigits.head rfl
  refine ⟨fun c hc => hdigits.isDigit c (List.mem_append_left _ hc), hne, ?_⟩
  intro hzero
  refine hdigits.head ?_
  rw [List.head?_append, hzero, Option.some_or]

/-! ## Words that are read as a decimal -/

/-- Whether a text is one word that is read as the number nearest to a decimal, behind its sign. -/
structure ReadsAs (text : List Char) (d : Decimal) : Prop where
  word : NumberText text
  read : ∀ negative, unsignedNumber? standardDigits negative text
    = some (.float (.ofDecimal negative d.digits d.exponent))

theorem ReadsAs.congr {text : List Char} {d d' : Decimal} (h : ReadsAs text d)
    (hd : d.toRat = d'.toRat) : ReadsAs text d' :=
  ⟨h.word, fun negative => by rw [h.read, Binary64.ofDecimal_congr hd]⟩

/-! ### Texts of numbers -/

theorem LeadingDigits.numberText {digits : List Char} (h : LeadingDigits digits) :
    NumberText digits :=
  numberText_of_isDigit h.isDigit h.ne_nil

theorem NumberText.append {text more : List Char} (h : NumberText text)
    (hmore : ∀ c ∈ more, isWordChar c = true) : NumberText (text ++ more) := by
  obtain ⟨d, rest, rfl, hd⟩ := h.lead
  refine ⟨⟨d, rest ++ more, rfl, hd⟩, fun c hc => ?_⟩
  exact (List.mem_append.mp hc).elim (h.chars c) (hmore c)

theorem isWordChar_of_point {digits : List Char} (h : ∀ c ∈ digits, c.isDigit = true) :
    ∀ c ∈ '.' :: digits, isWordChar c = true :=
  List.forall_mem_cons.mpr ⟨rfl, fun c hc => isWordChar_of_isDigit (h c hc)⟩

theorem isDigit_of_mem_zeros {k : ℕ} {c : Char} (h : c ∈ List.replicate k '0') :
    c.isDigit = true := by
  rw [List.eq_of_mem_replicate h]
  rfl

/-! ### A point among digits -/

theorem fractionPart?_append {fraction rest : List Char} (h : ∀ c ∈ fraction, c.isDigit = true)
    (hne : fraction ≠ []) (hrest : ∀ c ∈ rest.head?, c.isDigit = false) :
    fractionPart? ('.' :: fraction ++ rest) = some (fraction, rest) := by
  rw [List.cons_append, fractionPart?, splitDigits_append h hrest]
  simp [hne]

/-- Digits with a point among them denote what they show. -/
theorem readsAs_fraction {whole fraction : List Char}
    (hwhole : LeadingDigits whole ∨ whole = ['0']) (hfraction : ∀ c ∈ fraction, c.isDigit = true)
    (hne : fraction ≠ []) :
    ReadsAs (whole ++ '.' :: fraction) (pointed (whole ++ fraction) whole.length) := by
  have htext : NumberText whole := by
    rcases hwhole with hwhole | rfl
    · exact hwhole.numberText
    · exact numberText_of_isDigit (by simp) (by simp)
  have hpart : wholePart? (whole ++ '.' :: fraction) = some (whole, '.' :: fraction) := by
    rcases hwhole with hwhole | rfl
    · exact wholePart?_append hwhole (by simp)
    · rfl
  have hrest : fractionPart? ('.' :: fraction) = some (fraction, []) := by
    have hsplit : fractionPart? ('.' :: fraction ++ []) = some (fraction, []) :=
      fractionPart?_append hfraction hne (by simp)
    rwa [List.append_nil] at hsplit
  refine ⟨htext.append (isWordChar_of_point hfraction), fun negative => ?_⟩
  rw [unsignedNumber?, hpart]
  simp only [hrest, pointed]
  simp [hne]

theorem LeadingDigits.append {digits more : List Char} (h : LeadingDigits digits)
    (hmore : ∀ c ∈ more, c.isDigit = true) : LeadingDigits (digits ++ more) := by
  obtain ⟨d, rest, rfl⟩ := List.exists_cons_of_ne_nil h.ne_nil
  refine ⟨fun c hc => ?_, List.cons_ne_nil _ _, h.head⟩
  exact (List.mem_append.mp hc).elim (h.isDigit c) (hmore c)

theorem LeadingDigits.take {digits : List Char} (h : LeadingDigits digits) {k : ℕ} (hk : 0 < k) :
    LeadingDigits (digits.take k) := by
  obtain ⟨d, rest, rfl⟩ := List.exists_cons_of_ne_nil h.ne_nil
  obtain ⟨j, rfl⟩ : ∃ j, k = j + 1 := ⟨k - 1, by omega⟩
  exact ⟨fun c hc => h.isDigit c (List.mem_of_mem_take hc), List.cons_ne_nil _ _, h.head⟩

variable {digits : List Char}

/-- Zeros between the point and the digits move the point. -/
theorem readsAs_zeros_before (h : LeadingDigits digits) (k : ℕ) :
    ReadsAs ('0' :: '.' :: List.replicate k '0' ++ digits) (pointed digits (-k)) := by
  have hfraction : ∀ c ∈ List.replicate k '0' ++ digits, c.isDigit = true := fun c hc =>
    (List.mem_append.mp hc).elim isDigit_of_mem_zeros (h.isDigit c)
  have hread := readsAs_fraction (Or.inr rfl) hfraction (by simp [h.ne_nil])
  have hzero : ['0'] = List.replicate 1 '0' := rfl
  have hexponent : ((['0'].length : ℕ) : Int) - (1 : ℕ) - (k : ℕ) = -k := by
    rw [List.length_singleton]
    omega
  rw [hzero, Binary64.pointed_zeros_append, Binary64.pointed_zeros_append, ← hzero,
    hexponent] at hread
  exact hread

/-- Zeros behind the digits, and one more behind the point, stand for the digits. -/
theorem readsAs_zeros_behind (h : LeadingDigits digits) (k : ℕ) :
    ReadsAs (digits ++ List.replicate k '0' ++ ['.', '0'])
      (pointed digits ((digits.length + k : ℕ) : Int)) := by
  have hwhole : LeadingDigits (digits ++ List.replicate k '0') :=
    h.append fun c hc => isDigit_of_mem_zeros hc
  have hzero : ∀ c ∈ ['0'], c.isDigit = true := by simp
  have hread := readsAs_fraction (Or.inl hwhole) hzero (by simp)
  have hcount : (digits ++ List.replicate k '0').length = digits.length + k := by
    rw [List.length_append, List.length_replicate]
  have hzeros : digits ++ List.replicate k '0' ++ ['0']
      = digits ++ List.replicate (k + 1) '0' := by
    rw [List.replicate_succ', List.append_assoc]
  rw [hcount, hzeros] at hread
  exact hread.congr (Binary64.toRat_pointed_append_zeros _ _ _)

/-- A point among the digits. -/
theorem readsAs_point_among (h : LeadingDigits digits) {k : ℕ} (hk : 0 < k)
    (hlength : k < digits.length) :
    ReadsAs (digits.take k ++ '.' :: digits.drop k) (pointed digits k) := by
  have hfraction : ∀ c ∈ digits.drop k, c.isDigit = true := fun c hc =>
    h.isDigit c (List.mem_of_mem_drop hc)
  have hne : digits.drop k ≠ [] := by
    rw [ne_eq, List.drop_eq_nil_iff]
    omega
  have hread := readsAs_fraction (Or.inl (h.take hk)) hfraction hne
  have hcount : (digits.take k).length = k := by
    rw [List.length_take]
    omega
  rwa [hcount, List.take_append_drop] at hread

/-- The positional layout of digits denotes them with the point where it is asked for. -/
theorem readsAs_positional (h : LeadingDigits digits) (integerDigits : Int) :
    ReadsAs (positional digits integerDigits) (pointed digits integerDigits) := by
  rw [positional]
  split
  · obtain ⟨k, rfl⟩ : ∃ k : ℕ, integerDigits = -k := ⟨(-integerDigits).toNat, by omega⟩
    simp only [neg_neg, Int.toNat_natCast]
    exact readsAs_zeros_before h k
  · rename_i hpos
    obtain ⟨k, rfl⟩ : ∃ k : ℕ, integerDigits = k := ⟨integerDigits.toNat, by omega⟩
    simp only [Int.toNat_natCast]
    by_cases hlength : digits.length ≤ k
    · obtain ⟨zeros, rfl⟩ := Nat.exists_eq_add_of_le hlength
      rw [List.take_of_length_le hlength, List.drop_of_length_le hlength, Nat.add_sub_cancel_left]
      exact readsAs_zeros_behind h zeros
    · have hread := readsAs_point_among h (by omega : 0 < k) (by omega)
      have hzeros : k - digits.length = 0 := by omega
      have hne : ¬ (digits.drop k).isEmpty = true := by
        rw [List.isEmpty_iff, List.drop_eq_nil_iff]
        exact hlength
      rwa [hzeros, List.replicate_zero, List.append_nil, if_neg hne]

/-! ### A power of ten behind digits -/

/-- The digits of an exponent, of which there are two at least. -/
def padded (n : ℕ) : List Char :=
  List.replicate (2 - (Nat.toDigits 10 n).length) '0' ++ Nat.toDigits 10 n

theorem isDigit_of_mem_padded {n : ℕ} {c : Char} (h : c ∈ padded n) : c.isDigit = true :=
  (List.mem_append.mp h).elim isDigit_of_mem_zeros Numeral.isDigit_of_mem_toDigits

theorem padded_ne_nil (n : ℕ) : padded n ≠ [] := by
  simp [padded, Nat.toDigits_ne_nil]

theorem ofAsciiDigits_padded (n : ℕ) : Numeral.ofAsciiDigits (padded n) = n := by
  rw [padded, Numeral.ofAsciiDigits_append, Numeral.ofAsciiDigits_zeros, mul_zero, zero_add,
    Numeral.ofAsciiDigits_toDigits]

/-- The exponent as it is written, with a sign. -/
def exponentText (power : Int) : List Char :=
  (if power < 0 then '-' else '+') :: padded power.natAbs

theorem isWordChar_of_mem_exponentText (power : Int) :
    ∀ c ∈ 'e' :: exponentText power, isWordChar c = true := by
  refine List.forall_mem_cons.mpr ⟨rfl, List.forall_mem_cons.mpr ⟨?_, fun c hc => ?_⟩⟩
  · split <;> rfl
  · exact isWordChar_of_isDigit (isDigit_of_mem_padded hc)

theorem exponentPart?_exponentText (power : Int) :
    exponentPart? (exponentText power) = some power := by
  have hsign : Numeral.splitSign (exponentText power)
      = (decide (power < 0), padded power.natAbs) := by
    rw [exponentText]
    by_cases h : power < 0
    · rw [if_pos h, decide_eq_true h, Numeral.splitSign]
    · rw [if_neg h, decide_eq_false h, Numeral.splitSign]
  have hsplit : splitDigits (padded power.natAbs ++ []) = (padded power.natAbs, []) :=
    splitDigits_append (fun c hc => isDigit_of_mem_padded hc) (by simp)
  rw [List.append_nil] at hsplit
  rw [exponentPart?, hsign]
  simp only [hsplit, ofAsciiDigits_padded, signed_natAbs]
  simp [padded_ne_nil]

/-- The scientific layout of digits denotes them with the point behind the first, times the power
of ten. -/
theorem readsAs_scientific {digits : List Char} (h : LeadingDigits digits) (power : Int) :
    ReadsAs (scientific digits power) (pointed digits (power + 1)) := by
  obtain ⟨d, fraction, rfl⟩ := List.exists_cons_of_ne_nil h.ne_nil
  have hfraction : ∀ c ∈ fraction, c.isDigit = true := (List.forall_mem_cons.mp h.isDigit).2
  have hwhole : LeadingDigits [d] := ⟨by simp [h.isDigit d], by simp, h.head⟩
  -- a single digit has no point behind it
  obtain ⟨behind, htext, hchars, hhead, hpart⟩ : ∃ behind,
      scientific (d :: fraction) power = [d] ++ behind ∧ (∀ c ∈ behind, isWordChar c = true)
        ∧ (∀ c ∈ behind.head?, c.isDigit = false)
        ∧ fractionPart? behind = some (fraction, 'e' :: exponentText power) := by
    have hexponent := isWordChar_of_mem_exponentText power
    cases fraction with
    | nil => exact ⟨'e' :: exponentText power, rfl, hexponent, by simp, rfl⟩
    | cons second rest =>
      have hrest : ∀ c ∈ ('e' :: exponentText power).head?, c.isDigit = false := by simp
      have hpart := fractionPart?_append hfraction (List.cons_ne_nil _ _) hrest
      refine ⟨_, rfl, ?_, by simp, hpart⟩
      exact fun c hc => (List.mem_append.mp hc).elim (isWordChar_of_point hfraction c) (hexponent c)
  rw [htext]
  refine ⟨hwhole.numberText.append hchars, fun negative => ?_⟩
  have hshift : power + 1 - ((d :: fraction).length : Int) = power - fraction.length := by
    rw [List.length_cons]
    push_cast
    ring
  rw [unsignedNumber?, wholePart?_append hwhole hhead]
  simp only [hpart, exponentPart?_exponentText, pointed, hshift]
  rfl

/-! ## The texts of numbers -/

/-- The layout of a decimal other than zero denotes it. -/
theorem readsAs_layout {d : Decimal} (h : d.digits ≠ 0) : ReadsAs (layout d) d := by
  have hdigits := leadingDigits_significantDigits h
  have hvalue := Binary64.toRat_significantDigits d
  simp only [layout]
  split
  · exact (readsAs_positional hdigits _).congr hvalue
  · refine (readsAs_scientific hdigits _).congr ?_
    rw [Int.sub_add_cancel]
    exact hvalue

/-- The text of a number is read as the number. -/
theorem exists_signedText_of_canonical {x : Binary64} (hx : x.Canonical) :
    ∃ negative text, looseFloat x = signedText negative text ∧ NumberText text
      ∧ unsignedNumber? standardDigits negative text = some (.float x) := by
  cases x with
  | infinite negative => exact hx.elim
  | nan => exact hx.elim
  | finite negative significand exponent =>
    by_cases hs : significand = 0
    · -- only zero has a zero as its significand
      subst hs
      have hexponent : exponent = Binary64.minExponent :=
        hx.2.2.2.resolve_left (by decide)
      refine ⟨negative, ['0', '.', '0'], ?_, ⟨⟨_, _, rfl, rfl⟩, List.all_eq_true.mp rfl⟩, ?_⟩
      · simp [looseFloat, Binary64.toText, signedText]
      · subst hexponent
        rfl
    · have hread := readsAs_layout (Binary64.digits_shortest_ne_zero hx hs)
      refine ⟨negative, layout (Binary64.shortest significand exponent), ?_, hread.word, ?_⟩
      · simp [looseFloat, Binary64.toText, hs, signedText]
      · rw [hread.read, Binary64.ofDecimal_shortest hx hs]

end IntentGateway.Json
