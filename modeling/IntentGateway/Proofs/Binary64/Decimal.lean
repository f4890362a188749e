import IntentGateway.Binary64.Text
import IntentGateway.Proofs.Binary64.Rounding

/-! # Numbers from decimals and back

A decimal is rounded to the number nearest to it, whatever digits and power of ten it is written
with; that decimals far outside the range are settled beforehand changes nothing. The shortest
decimal of a number is one that rounds to it: it was chosen among those, and the exact one, which is
left if there were none, does as well.
-/

namespace IntentGateway.Binary64

variable {digits significand : ℕ} {exponent : Int} {negative : Bool} {d d' : Decimal}

/-! ## The sign -/

theorem assemble_true :
    assemble true significand exponent = (assemble false significand exponent).neg := by
  simp only [assemble]
  generalize (if significand = significandLimit then exponent + 1 else exponent) = carried
  split <;> rfl

theorem roundPositive_true {numerator denominator : ℕ} :
    roundPositive true numerator denominator = (roundPositive false numerator denominator).neg := by
  simp only [roundPositive]
  split
  · rfl
  · exact assemble_true

/-- The sign is kept apart from what is rounded. -/
theorem ofDecimal_true :
    ofDecimal true digits exponent = (ofDecimal false digits exponent).neg := by
  simp only [ofDecimal]
  split
  · rfl
  · split
    · rfl
    · exact roundPositive_true

/-! ## What decimals round to -/

theorem pow_ten_ne_zero (k : ℕ) : Nat.pow 10 k ≠ 0 :=
  (Nat.pow_pos (by omega)).ne'

/-- Three bits are less than a digit. -/
theorem two_pow_le_ten_pow (k : ℕ) : 2 ^ (3 * k) ≤ 10 ^ k := by
  rw [pow_mul]
  exact Nat.pow_le_pow_left (by omega) k

/-- A power of two in the range of the format is less than the power of ten that is given up on. -/
theorem two_zpow_lt_ten_zpow {k : Int} (hk : k < 1203) : (2 : ℚ) ^ k < 10 ^ (401 : Int) := by
  have hpow : (2 : ℚ) ^ ((3 * 401 : ℕ) : Int) ≤ 10 ^ ((401 : ℕ) : Int) := by
    rw [zpow_natCast, zpow_natCast]
    exact_mod_cast two_pow_le_ten_pow 401
  exact lt_of_lt_of_le (zpow_lt_zpow_right₀ (by norm_num) hk) hpow

theorem ten_zpow_lt_two_zpow {k : Int} (hk : -1203 < k) : (10 : ℚ) ^ (-401 : Int) < 2 ^ k := by
  have hlt : (2 : ℚ) ^ (-k) < 10 ^ (401 : Int) := two_zpow_lt_ten_zpow (by omega)
  have hinv : ((10 : ℚ) ^ (401 : Int))⁻¹ < (2 ^ (-k))⁻¹ := inv_strictAnti₀ (by positivity) hlt
  rwa [zpow_neg 2 k, inv_inv, ← zpow_neg] at hinv

/-- The ratio that is rounded is the decimal. -/
theorem ratio_eq (digits : ℕ) (exponent : Int) :
    ((digits * Nat.pow 10 exponent.toNat : ℕ) : ℚ) / (Nat.pow 10 (-exponent).toNat : ℕ)
      = digits * 10 ^ exponent := by
  have hpows : (10 : ℚ) ^ exponent.toNat = 10 ^ exponent * 10 ^ (-exponent).toNat :=
    pow_toNat 10 (by norm_num) exponent
  have hden : (10 : ℚ) ^ (-exponent).toNat ≠ 0 := by positivity
  simp only [Nat.pow_eq]
  push_cast
  rw [hpows, ← mul_assoc, mul_div_cancel_right₀ _ hden]

/-- The number of digits that is read off the length in bits is great enough. -/
theorem lt_pow_size (digits : ℕ) : (digits : ℚ) < 10 ^ ((digits.log2 : Int) / 3 + 1) := by
  have hlt : digits < 2 ^ (digits.log2 + 1) := Nat.lt_log2_self
  have hle : digits < 10 ^ (digits.log2 / 3 + 1) := by
    calc digits < 2 ^ (digits.log2 + 1) := hlt
      _ ≤ 2 ^ (3 * (digits.log2 / 3 + 1)) := Nat.pow_le_pow_right (by omega) (by omega)
      _ ≤ 10 ^ (digits.log2 / 3 + 1) := two_pow_le_ten_pow _
  have hexponent : (digits.log2 : Int) / 3 + 1 = (digits.log2 / 3 + 1 : ℕ) := by omega
  rw [hexponent, zpow_natCast]
  exact_mod_cast hle

/-- Settling exponents far outside the range beforehand gives what rounding would. -/
theorem ofDecimal_eq_roundPositive (h : digits ≠ 0) :
    ofDecimal negative digits exponent
      = roundPositive negative (digits * Nat.pow 10 exponent.toNat)
        (Nat.pow 10 (-exponent).toNat) := by
  have hden : Nat.pow 10 (-exponent).toNat ≠ 0 := pow_ten_ne_zero _
  have hpow : (0 : ℚ) < 10 ^ exponent := by positivity
  simp only [ofDecimal, h, false_or]
  split
  · rename_i hsmall
    refine (roundPositive_of_lt hden ?_).symm
    rw [ratio_eq]
    calc (digits : ℚ) * 10 ^ exponent
        < 10 ^ ((digits.log2 : Int) / 3 + 1) * 10 ^ exponent := by
          gcongr
          exact lt_pow_size digits
      _ = 10 ^ ((digits.log2 : Int) / 3 + 1 + exponent) := (zpow_add₀ (by norm_num) _ _).symm
      _ ≤ 10 ^ (-401 : Int) := zpow_le_zpow_right₀ (by norm_num) (by omega)
      _ < 2 ^ (minExponent - 1) := ten_zpow_lt_two_zpow (by decide)
  · split
    · rename_i hlarge
      refine (roundPositive_of_le hden ?_).symm
      have hdigits : (1 : ℚ) ≤ digits := by exact_mod_cast Nat.pos_of_ne_zero h
      rw [ratio_eq]
      calc (2 : ℚ) ^ (maxExponent + 53) ≤ 10 ^ (401 : Int) :=
            (two_zpow_lt_ten_zpow (by decide)).le
        _ ≤ 10 ^ exponent := zpow_le_zpow_right₀ (by norm_num) (by omega)
        _ ≤ digits * 10 ^ exponent := le_mul_of_one_le_left hpow.le hdigits
    · rfl

theorem toRat_eq_zero_iff : d.toRat = 0 ↔ d.digits = 0 := by
  have hpow : (10 : ℚ) ^ d.exponent ≠ 0 := by positivity
  rw [Decimal.toRat, mul_eq_zero, or_iff_left hpow, Nat.cast_eq_zero]

/-- Decimals that denote the same rational round to the same number. -/
theorem ofDecimal_congr (h : d.toRat = d'.toRat) :
    ofDecimal negative d.digits d.exponent = ofDecimal negative d'.digits d'.exponent := by
  have hzero : d.digits = 0 ↔ d'.digits = 0 := by
    rw [← toRat_eq_zero_iff, h, toRat_eq_zero_iff]
  by_cases hd : d.digits = 0
  · simp only [ofDecimal, hd, hzero.mp hd, true_or, if_true]
  · have hd' : d'.digits ≠ 0 := fun h' => hd (hzero.mpr h')
    rw [ofDecimal_eq_roundPositive hd, ofDecimal_eq_roundPositive hd']
    apply roundPositive_congr (pow_ten_ne_zero _) (pow_ten_ne_zero _)
    rw [ratio_eq, ratio_eq]
    exact h

theorem natAbs_num_div_den {q : ℚ} (hq : 0 ≤ q) : (q.num.natAbs : ℚ) / q.den = q := by
  rw [Nat.cast_natAbs, abs_of_nonneg (Rat.num_nonneg.mpr hq), Rat.num_div_den]

theorem ofRat_of_nonneg {q : ℚ} (hq : 0 ≤ q) :
    ofRat q = roundPositive false q.num.natAbs q.den := by
  have hsign : decide (q.num < 0) = false := by
    rw [decide_eq_false_iff_not, not_lt]
    exact Rat.num_nonneg.mpr hq
  rw [ofRat, round, hsign, ite_self]

/-- Rounding a decimal is rounding the rational that it denotes. -/
theorem ofDecimal_eq_ofRat (d : Decimal) : ofDecimal false d.digits d.exponent = ofRat d.toRat := by
  by_cases hd : d.digits = 0
  · rw [toRat_eq_zero_iff.mpr hd]
    simp only [ofDecimal, hd, true_or, if_true]
    rfl
  · have hnonneg : 0 ≤ d.toRat := by
      rw [Decimal.toRat]
      positivity
    rw [ofDecimal_eq_roundPositive hd, ofRat_of_nonneg hnonneg]
    apply roundPositive_congr (pow_ten_ne_zero _) d.toRat.den_ne_zero
    rw [ratio_eq, natAbs_num_div_den hnonneg]
    rfl

/-! ## The shortest decimal -/

theorem ofRat_of_canonical (hx : (finite false significand exponent).Canonical)
    (hs : significand ≠ 0) :
    ofRat (significand * 2 ^ exponent) = .finite false significand exponent := by
  have hnonneg : (0 : ℚ) ≤ significand * 2 ^ exponent := by positivity
  rw [ofRat_of_nonneg hnonneg]
  exact roundPositive_of_eq (Rat.den_ne_zero _) hs hx (natAbs_num_div_den hnonneg)

/-- The exact decimal of a number denotes the number. -/
theorem toRat_exact (significand : ℕ) (exponent : Int) :
    (Decimal.mk ((significand <<< exponent.toNat) * Nat.pow 5 (-exponent).toNat)
      (-((-exponent).toNat : Int))).toRat = significand * 2 ^ exponent := by
  have hpows : (2 : ℚ) ^ exponent.toNat = 2 ^ exponent * 2 ^ (-exponent).toNat :=
    pow_toNat 2 (by norm_num) exponent
  have htens : (5 : ℚ) ^ (-exponent).toNat * 2 ^ (-exponent).toNat = 10 ^ (-exponent).toNat := by
    rw [← mul_pow]
    norm_num
  have hden : (10 : ℚ) ^ (-exponent).toNat ≠ 0 := by positivity
  simp only [Decimal.toRat, Nat.shiftLeft_eq, Nat.pow_eq]
  push_cast
  rw [zpow_neg, zpow_natCast, hpows, ← div_eq_mul_inv, div_eq_iff hden, ← htens]
  ring

/-- The shortest decimal of a number reads back to it. -/
theorem ofRat_shortest (hx : (finite false significand exponent).Canonical)
    (hs : significand ≠ 0) :
    ofRat (shortest significand exponent).toRat = .finite false significand exponent := by
  simp only [shortest]
  split
  · rename_i found hfound
    have hreads := List.find?_some hfound
    rwa [readsAs, beq_iff_eq] at hreads
  · rw [toRat_exact]
    exact ofRat_of_canonical hx hs

theorem ofDecimal_shortest (hx : (finite negative significand exponent).Canonical)
    (hs : significand ≠ 0) :
    ofDecimal negative (shortest significand exponent).digits
        (shortest significand exponent).exponent
      = .finite negative significand exponent := by
  have hpositive := ofDecimal_eq_ofRat (shortest significand exponent)
  rw [ofRat_shortest hx hs] at hpositive
  cases negative with
  | false => exact hpositive
  | true =>
    rw [ofDecimal_true, hpositive]
    rfl

/-- The shortest decimal of a number other than zero is not zero. -/
theorem digits_shortest_ne_zero (hx : (finite negative significand exponent).Canonical)
    (hs : significand ≠ 0) : (shortest significand exponent).digits ≠ 0 := by
  intro hzero
  have hread := ofDecimal_shortest hx hs
  simp only [ofDecimal, hzero, true_or, if_true, zero, finite.injEq] at hread
  exact hs hread.2.1.symm

end IntentGateway.Binary64
