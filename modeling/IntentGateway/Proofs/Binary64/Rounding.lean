import IntentGateway.Proofs.Binary64.Range

/-! # Rounding a ratio

A numerator and a denominator are rounded, but only their ratio counts: the exponent is the least
one of the format at which the significand of the ratio has 53 bits at most, and the significand is
the integer nearest to the ratio in units of that power of two. So whatever is equal to a number of
the format rounds to that number, whatever is less than half of the least number rounds to zero,
and whatever is beyond the range to the infinity.
-/

namespace IntentGateway.Binary64

variable {numerator denominator numerator' denominator' significand : ℕ} {exponent : Int}
  {negative : Bool}

/-- Whether a number is finite, with a significand and an exponent as the format has them. -/
def Canonical : Binary64 → Prop
  | .finite _ significand exponent =>
    significand < significandLimit ∧ minExponent ≤ exponent ∧ exponent ≤ maxExponent
      ∧ (significandLimit / 2 ≤ significand ∨ exponent = minExponent)
  | _ => False

theorem Canonical.isSome_toRat? {x : Binary64} (h : x.Canonical) : x.toRat?.isSome = true := by
  cases x with
  | finite negative significand exponent => rfl
  | infinite negative => exact h.elim
  | nan => exact h.elim

/-! ## Powers -/

/-- A power whose exponent has a sign, as a ratio of powers whose exponents have none. -/
theorem pow_toNat (base : ℚ) (hbase : base ≠ 0) (exponent : Int) :
    base ^ exponent.toNat = base ^ exponent * base ^ (-exponent).toNat := by
  rw [← zpow_natCast, ← zpow_natCast, ← zpow_add₀ hbase]
  congr 1
  omega

theorem significandLimit_eq : (significandLimit : ℚ) = 2 ^ (53 : Int) := by
  norm_num [significandLimit]

/-! ## The exponent -/

/-- Scaling by shifts is scaling the ratio. -/
theorem scaledBelow_iff (hd : denominator ≠ 0) :
    ScaledBelow numerator denominator exponent
      ↔ (numerator : ℚ) / denominator < 2 ^ (exponent + 53) := by
  have hden : (0 : ℚ) < denominator := by exact_mod_cast Nat.pos_of_ne_zero hd
  have hscale : (0 : ℚ) < 2 ^ (-exponent).toNat := by positivity
  have hpow : (2 : ℚ) ^ exponent.toNat = 2 ^ exponent * 2 ^ (-exponent).toNat :=
    pow_toNat 2 (by norm_num) exponent
  have hcast : ((denominator <<< exponent.toNat * significandLimit : ℕ) : ℚ)
      = 2 ^ (exponent + 53) * denominator * 2 ^ (-exponent).toNat := by
    rw [Nat.shiftLeft_eq, Nat.cast_mul, significandLimit_eq, zpow_add₀ (by norm_num)]
    push_cast
    rw [hpow]
    ring
  have hcast' : ((numerator <<< (-exponent).toNat : ℕ) : ℚ)
      = numerator * 2 ^ (-exponent).toNat := by
    rw [Nat.shiftLeft_eq]
    push_cast
    rfl
  rw [ScaledBelow, ← Nat.cast_lt (α := ℚ), hcast, hcast', mul_lt_mul_iff_left₀ hscale,
    div_lt_iff₀ hden]

/-- The lengths in bits tell the exponent from below as well. -/
theorem not_scaledBelow_of_log2 (hn : numerator ≠ 0) (hd : denominator ≠ 0) :
    ¬ ScaledBelow numerator denominator ((numerator.log2 : Int) - denominator.log2 - 53 - 1) := by
  have hden : (0 : ℚ) < denominator := by exact_mod_cast Nat.pos_of_ne_zero hd
  have hle : (2 : ℚ) ^ (numerator.log2 : Int) ≤ numerator := by
    rw [zpow_natCast]
    exact_mod_cast Nat.log2_self_le hn
  have hlt : (denominator : ℚ) < 2 ^ (denominator.log2 + 1 : Int) := by
    have h : denominator < 2 ^ (denominator.log2 + 1) := Nat.lt_log2_self
    exact_mod_cast h
  rw [scaledBelow_iff hd, not_lt, le_div_iff₀ hden]
  calc (2 : ℚ) ^ ((numerator.log2 : Int) - denominator.log2 - 53 - 1 + 53) * denominator
      ≤ 2 ^ ((numerator.log2 : Int) - denominator.log2 - 53 - 1 + 53)
          * 2 ^ (denominator.log2 + 1 : Int) := by gcongr
    _ = 2 ^ (numerator.log2 : Int) := by
        rw [← zpow_add₀ (by norm_num)]
        congr 1
        ring
    _ ≤ numerator := hle

theorem minExponent_le_exponentFor (numerator denominator : ℕ) :
    minExponent ≤ exponentFor numerator denominator := by
  simp only [exponentFor]
  exact le_max_right _ _

/-- The exponent that is chosen is the least one that scales the ratio enough. -/
theorem exponentFor_le (hn : numerator ≠ 0) (hd : denominator ≠ 0)
    (h : ScaledBelow numerator denominator exponent) (hmin : minExponent ≤ exponent) :
    exponentFor numerator denominator ≤ exponent := by
  have hbelow := not_scaledBelow_of_log2 hn hd
  rw [exponentFor]
  refine max_le ?_ hmin
  split
  · by_contra hlt
    exact hbelow (h.mono (by omega))
  · rename_i hestimate
    by_contra hlt
    exact hestimate (h.mono (by omega))

theorem exponentFor_congr (hd : denominator ≠ 0) (hd' : denominator' ≠ 0) (hn : numerator ≠ 0)
    (hn' : numerator' ≠ 0)
    (h : (numerator : ℚ) / denominator = numerator' / denominator') :
    exponentFor numerator denominator = exponentFor numerator' denominator' := by
  apply le_antisymm
  · refine exponentFor_le hn hd ?_ (minExponent_le_exponentFor _ _)
    rw [scaledBelow_iff hd, h, ← scaledBelow_iff hd']
    exact scaledBelow_exponentFor hd'
  · refine exponentFor_le hn' hd' ?_ (minExponent_le_exponentFor _ _)
    rw [scaledBelow_iff hd', ← h, ← scaledBelow_iff hd]
    exact scaledBelow_exponentFor hd

/-! ## The significand -/

theorem roundQuotient_mul_right {scale : ℕ} (h : 0 < scale) :
    roundQuotient (numerator * scale) (denominator * scale)
      = roundQuotient numerator denominator := by
  have hcompare : compare (2 * (numerator % denominator * scale)) (denominator * scale)
      = compare (2 * (numerator % denominator)) denominator := by
    rw [← mul_assoc]
    rcases lt_trichotomy (2 * (numerator % denominator)) denominator with hlt | heq | hgt
    · rw [compare_lt_iff_lt.mpr hlt, compare_lt_iff_lt.mpr (Nat.mul_lt_mul_of_pos_right hlt h)]
    · rw [heq, compare_eq_iff_eq.mpr rfl, compare_eq_iff_eq.mpr rfl]
    · rw [compare_gt_iff_gt.mpr hgt, compare_gt_iff_gt.mpr (Nat.mul_lt_mul_of_pos_right hgt h)]
  simp only [roundQuotient, Nat.mul_div_mul_right _ _ h, Nat.mul_mod_mul_right, hcompare]

/-- Equal ratios have the same nearest integer. -/
theorem roundQuotient_congr (hd : 0 < denominator) (hd' : 0 < denominator')
    (h : numerator * denominator' = numerator' * denominator) :
    roundQuotient numerator denominator = roundQuotient numerator' denominator' := by
  rw [← roundQuotient_mul_right hd', h, mul_comm denominator, roundQuotient_mul_right hd]

theorem roundQuotient_of_eq_mul (hd : 0 < denominator)
    (h : numerator = significand * denominator) :
    roundQuotient numerator denominator = significand := by
  have hcompare : compare (2 * 0) denominator = .lt := compare_lt_iff_lt.mpr (by omega)
  simp only [roundQuotient, h, Nat.mul_div_cancel _ hd, Nat.mul_mod_left, hcompare]

theorem roundQuotient_of_two_mul_lt (h : 2 * numerator < denominator) :
    roundQuotient numerator denominator = 0 := by
  have hlt : numerator < denominator := by omega
  have hcompare : compare (2 * numerator) denominator = .lt := compare_lt_iff_lt.mpr h
  simp only [roundQuotient, Nat.mod_eq_of_lt hlt, Nat.div_eq_of_lt hlt, hcompare]

/-! ## The number -/

theorem cast_ratio (hd : denominator ≠ 0) (hd' : denominator' ≠ 0) :
    (numerator : ℚ) / denominator = numerator' / denominator'
      ↔ numerator * denominator' = numerator' * denominator := by
  have hden : (denominator : ℚ) ≠ 0 := by exact_mod_cast hd
  have hden' : (denominator' : ℚ) ≠ 0 := by exact_mod_cast hd'
  rw [div_eq_div_iff hden hden']
  exact_mod_cast Iff.rfl

/-- Equal ratios round to the same number. -/
theorem roundPositive_congr (hd : denominator ≠ 0) (hd' : denominator' ≠ 0)
    (h : (numerator : ℚ) / denominator = numerator' / denominator') :
    roundPositive negative numerator denominator
      = roundPositive negative numerator' denominator' := by
  have hcross := (cast_ratio hd hd').mp h
  have hzero : numerator = 0 ↔ numerator' = 0 := by
    constructor
    · rintro rfl
      simpa [hd] using hcross.symm
    · rintro rfl
      simpa [hd'] using hcross
  rw [roundPositive, roundPositive]
  by_cases hn : numerator = 0
  · rw [if_pos hn, if_pos (hzero.mp hn)]
  · have hn' : numerator' ≠ 0 := fun h' => hn (hzero.mpr h')
    have hscaled : ∀ exponent : Int, roundScaled numerator denominator exponent
        = roundScaled numerator' denominator' exponent := by
      intro exponent
      simp only [roundScaled, Nat.shiftLeft_eq]
      apply roundQuotient_congr (by positivity) (by positivity)
      calc numerator * 2 ^ (-exponent).toNat * (denominator' * 2 ^ exponent.toNat)
          = numerator * denominator' * (2 ^ (-exponent).toNat * 2 ^ exponent.toNat) := by ring
        _ = numerator' * denominator * (2 ^ (-exponent).toNat * 2 ^ exponent.toNat) := by
            rw [hcross]
        _ = numerator' * 2 ^ (-exponent).toNat * (denominator * 2 ^ exponent.toNat) := by ring
    rw [if_neg hn, if_neg hn', exponentFor_congr hd hd' hn hn' h]
    simp only [hscaled]

/-- A number of the format has the exponent that is chosen for its ratio. -/
theorem exponentFor_eq_of_eq (hn : numerator ≠ 0) (hd : denominator ≠ 0)
    (hx : (finite negative significand exponent).Canonical)
    (h : (numerator : ℚ) / denominator = significand * 2 ^ exponent) :
    exponentFor numerator denominator = exponent := by
  obtain ⟨hlimit, hmin, -, hnormal⟩ := hx
  have hpow : (0 : ℚ) < 2 ^ exponent := by positivity
  have hbelow : ScaledBelow numerator denominator exponent := by
    have hcast : (significand : ℚ) < 2 ^ (53 : Int) := by
      rw [← significandLimit_eq]
      exact_mod_cast hlimit
    rw [scaledBelow_iff hd, h, zpow_add₀ (by norm_num), mul_comm]
    gcongr
  apply le_antisymm (exponentFor_le hn hd hbelow hmin)
  -- a lesser exponent is enough for less than 53 bits only
  by_contra hless
  have hlower : ScaledBelow numerator denominator (exponent - 1) :=
    (scaledBelow_exponentFor hd).mono (by omega)
  have hshift : exponent - 1 + 53 = 52 + exponent := by ring
  rw [scaledBelow_iff hd, h, hshift, zpow_add₀ (by norm_num), mul_lt_mul_iff_left₀ hpow] at hlower
  have hhalf : significand < significandLimit / 2 := by
    have hcast : significand < 2 ^ 52 := by exact_mod_cast hlower
    exact hcast
  have hleast := minExponent_le_exponentFor numerator denominator
  omega

/-- An integer in units of a power of two is not rounded. -/
theorem roundScaled_of_eq (hd : denominator ≠ 0)
    (h : (numerator : ℚ) / denominator = significand * 2 ^ exponent) :
    roundScaled numerator denominator exponent = significand := by
  have hden : (denominator : ℚ) ≠ 0 := by exact_mod_cast hd
  have hpows := pow_toNat 2 (by norm_num) exponent
  rw [roundScaled, Nat.shiftLeft_eq, Nat.shiftLeft_eq]
  apply roundQuotient_of_eq_mul (by positivity)
  rw [div_eq_iff hden] at h
  have hcast : (numerator : ℚ) * 2 ^ (-exponent).toNat
      = significand * (denominator * 2 ^ exponent.toNat) := by
    rw [h, hpows]
    ring
  exact_mod_cast hcast

/-- A ratio that is a number of the format rounds to it. -/
theorem roundPositive_of_eq (hd : denominator ≠ 0) (hs : significand ≠ 0)
    (hx : (finite negative significand exponent).Canonical)
    (h : (numerator : ℚ) / denominator = significand * 2 ^ exponent) :
    roundPositive negative numerator denominator = .finite negative significand exponent := by
  have hn : numerator ≠ 0 := by
    rintro rfl
    have hpow : (2 : ℚ) ^ exponent ≠ 0 := by positivity
    rw [Nat.cast_zero, zero_div] at h
    exact hs (by exact_mod_cast (mul_eq_zero.mp h.symm).resolve_right hpow)
  have hexponent := exponentFor_eq_of_eq hn hd hx h
  have hscaled := roundScaled_of_eq hd h
  obtain ⟨hlimit, -, hmax, -⟩ := hx
  rw [roundPositive, if_neg hn]
  simp only [hexponent, hscaled, assemble, if_neg hlimit.ne, if_neg (not_lt.mpr hmax)]

/-- What is less than half of the least number rounds to zero. -/
theorem roundPositive_of_lt (hd : denominator ≠ 0)
    (h : (numerator : ℚ) / denominator < 2 ^ (minExponent - 1)) :
    roundPositive negative numerator denominator = zero negative := by
  have hden : (0 : ℚ) < denominator := by exact_mod_cast Nat.pos_of_ne_zero hd
  rw [roundPositive]
  split
  · rfl
  rename_i hn
  have hexponent : exponentFor numerator denominator = minExponent := by
    apply le_antisymm (exponentFor_le hn hd ?_ le_rfl) (minExponent_le_exponentFor _ _)
    rw [scaledBelow_iff hd]
    refine lt_trans h (zpow_lt_zpow_right₀ (by norm_num) ?_)
    omega
  have hscaled : roundScaled numerator denominator minExponent = 0 := by
    have hzero : minExponent.toNat = 0 := rfl
    have hpow : (2 : ℚ) ^ (minExponent - 1) * (2 * 2 ^ (-minExponent).toNat) = 1 := by
      have hpows := pow_toNat 2 (by norm_num) minExponent
      rw [hzero, pow_zero] at hpows
      rw [zpow_sub_one₀ (by norm_num), ← mul_assoc, inv_mul_cancel_right₀ (by norm_num), ← hpows]
    rw [roundScaled, Nat.shiftLeft_eq, Nat.shiftLeft_eq, hzero, pow_zero, mul_one]
    apply roundQuotient_of_two_mul_lt
    rw [div_lt_iff₀ hden] at h
    have hcast : 2 * ((numerator : ℚ) * 2 ^ (-minExponent).toNat) < denominator := by
      have hpos : (0 : ℚ) < 2 * 2 ^ (-minExponent).toNat := by positivity
      calc 2 * ((numerator : ℚ) * 2 ^ (-minExponent).toNat)
          = numerator * (2 * 2 ^ (-minExponent).toNat) := by ring
        _ < 2 ^ (minExponent - 1) * denominator * (2 * 2 ^ (-minExponent).toNat) := by gcongr
        _ = 2 ^ (minExponent - 1) * (2 * 2 ^ (-minExponent).toNat) * denominator := by ring
        _ = denominator := by rw [hpow, one_mul]
    exact_mod_cast hcast
  simp only [hexponent, hscaled]
  rfl

/-- What is beyond the range rounds to the infinity. -/
theorem roundPositive_of_le (hd : denominator ≠ 0)
    (h : (2 : ℚ) ^ (maxExponent + 53) ≤ (numerator : ℚ) / denominator) :
    roundPositive negative numerator denominator = .infinite negative := by
  have hn : numerator ≠ 0 := by
    rintro rfl
    rw [Nat.cast_zero, zero_div] at h
    exact absurd h (not_le.mpr (by positivity))
  have hexponent : maxExponent < exponentFor numerator denominator := by
    by_contra hle
    have hbelow := (scaledBelow_exponentFor hd).mono (not_lt.mp hle)
    rw [scaledBelow_iff hd] at hbelow
    exact absurd h (not_le.mpr hbelow)
  rw [roundPositive, if_neg hn]
  simp only [assemble]
  rw [if_pos]
  split
  · omega
  · exact hexponent

end IntentGateway.Binary64
