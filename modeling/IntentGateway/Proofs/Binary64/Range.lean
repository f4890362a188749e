import IntentGateway.Binary64.Basic
import IntentGateway.Proofs.Numeral.Decimal
import Mathlib.Algebra.Order.Field.Basic
import Mathlib.Algebra.Order.Field.Power
import Mathlib.Data.Rat.Lemmas
import Mathlib.Tactic.GCongr
import Mathlib.Tactic.NormNum
import Mathlib.Tactic.Positivity
import Mathlib.Tactic.Ring

/-! # The range of rounded numbers

Rounding a quotient chooses the exponent so that the significand has at most 53 bits, and gives up
beyond the greatest exponent. So a finite number that was read is below 2^1024, and where it is an
integer the integer can be written.
-/

namespace IntentGateway.Binary64

/-- Whether the significand and the exponent of a finite number are those of the format. -/
def InRange : Binary64 → Prop
  | .finite _ significand exponent => significand < significandLimit ∧ exponent ≤ maxExponent
  | _ => True

/-! ## The exponent of a quotient -/

/-- Whether a quotient divided by a power of two is less than what significands are less than. -/
def ScaledBelow (numerator denominator : ℕ) (exponent : Int) : Prop :=
  numerator <<< (-exponent).toNat < (denominator <<< exponent.toNat) * significandLimit

variable {numerator denominator : ℕ} {exponent : Int}

/-- A greater exponent makes the scaled quotient smaller. -/
theorem ScaledBelow.succ (h : ScaledBelow numerator denominator exponent) :
    ScaledBelow numerator denominator (exponent + 1) := by
  simp only [ScaledBelow, Nat.shiftLeft_eq] at h ⊢
  -- an exponent that is not negative scales the denominator, a negative one the numerator
  by_cases hexp : 0 ≤ exponent
  · have hneg : (-(exponent + 1)).toNat = (-exponent).toNat := by omega
    have hpos : (exponent + 1).toNat = exponent.toNat + 1 := by omega
    rw [hneg, hpos, pow_succ, ← mul_assoc, Nat.mul_right_comm]
    exact lt_of_lt_of_le h (Nat.le_mul_of_pos_right _ (by omega))
  · have hneg : (-exponent).toNat = (-(exponent + 1)).toNat + 1 := by omega
    have hpos : (exponent + 1).toNat = exponent.toNat := by omega
    rw [hneg, pow_succ, ← mul_assoc] at h
    rw [hpos]
    omega

theorem ScaledBelow.mono (h : ScaledBelow numerator denominator exponent) {greater : Int}
    (hle : exponent ≤ greater) : ScaledBelow numerator denominator greater := by
  induction greater, hle using Int.leInduction with
  | base => exact h
  | succ n _ ih => exact ih.succ

/-- The lengths of numerator and denominator in bits tell the exponent up to one. -/
theorem scaledBelow_of_log2 (hd : denominator ≠ 0) :
    ScaledBelow numerator denominator ((numerator.log2 : Int) - denominator.log2 - 53 + 1) := by
  have hn : numerator < 2 ^ (numerator.log2 + 1) := Nat.lt_log2_self
  have hle : 2 ^ denominator.log2 ≤ denominator := Nat.log2_self_le hd
  have hlimit : significandLimit = 2 ^ 53 := rfl
  rw [ScaledBelow, Nat.shiftLeft_eq, Nat.shiftLeft_eq, hlimit]
  generalize numerator.log2 = n at hn ⊢
  generalize denominator.log2 = d at hle ⊢
  by_cases hexp : (0 : Int) ≤ n - d - 53 + 1
  · obtain ⟨k, hk⟩ : ∃ k, n = d + 52 + k := ⟨n - (d + 52), by omega⟩
    have hneg : (-((n : Int) - d - 53 + 1)).toNat = 0 := by omega
    have hpos : ((n : Int) - d - 53 + 1).toNat = k := by omega
    rw [hneg, hpos, pow_zero, mul_one]
    calc numerator < 2 ^ (n + 1) := hn
      _ = 2 ^ d * 2 ^ k * 2 ^ 53 := by rw [← pow_add, ← pow_add]; congr 1; omega
      _ ≤ denominator * 2 ^ k * 2 ^ 53 := by gcongr
  · obtain ⟨k, hk⟩ : ∃ k, n + k = d + 52 := ⟨d + 52 - n, by omega⟩
    have hneg : (-((n : Int) - d - 53 + 1)).toNat = k := by omega
    have hpos : ((n : Int) - d - 53 + 1).toNat = 0 := by omega
    rw [hneg, hpos, pow_zero, mul_one]
    calc numerator * 2 ^ k < 2 ^ (n + 1) * 2 ^ k := by gcongr
      _ = 2 ^ d * 2 ^ 53 := by rw [← pow_add, ← pow_add]; congr 1; omega
      _ ≤ denominator * 2 ^ 53 := by gcongr

/-- The exponent that is chosen gives a significand of at most 53 bits. -/
theorem scaledBelow_exponentFor (hd : denominator ≠ 0) :
    ScaledBelow numerator denominator (exponentFor numerator denominator) := by
  rw [exponentFor]
  refine ScaledBelow.mono ?_ (le_max_left _ _)
  split
  · assumption
  · exact scaledBelow_of_log2 hd

/-! ## Rounding stays in range -/

theorem roundQuotient_le {limit : ℕ} (h : numerator < denominator * limit) :
    roundQuotient numerator denominator ≤ limit := by
  have hwhole : numerator / denominator < limit := Nat.div_lt_of_lt_mul h
  simp only [roundQuotient]
  split
  · omega
  · omega
  · split <;> omega

theorem inRange_assemble {negative : Bool} {significand : ℕ}
    (h : significand ≤ significandLimit) : (assemble negative significand exponent).InRange := by
  have hhalf : significandLimit / 2 < significandLimit := by decide
  rw [assemble]
  by_cases hcarried : significand = significandLimit
  · simp only [if_pos hcarried]
    split
    · trivial
    · exact ⟨hhalf, by omega⟩
  · simp only [if_neg hcarried]
    split
    · trivial
    · exact ⟨by omega, by omega⟩

theorem inRange_roundPositive {negative : Bool} (hd : denominator ≠ 0) :
    (roundPositive negative numerator denominator).InRange := by
  rw [roundPositive]
  split
  · exact ⟨by decide, by decide⟩
  · exact inRange_assemble (roundQuotient_le (scaledBelow_exponentFor hd))

/-- A number that is read from digits is in range. -/
theorem inRange_ofDecimal (negative : Bool) (digits : ℕ) (exponent : Int) :
    (ofDecimal negative digits exponent).InRange := by
  simp only [ofDecimal]
  split
  · exact ⟨by decide, by decide⟩
  · split
    · trivial
    · exact inRange_roundPositive (Nat.pos_iff_ne_zero.mp (Nat.pow_pos (by omega)))

/-! ## Integers in range -/

/-- A finite number in range is below 2^1024. -/
theorem InRange.abs_lt {x : Binary64} (hx : x.InRange) {q : ℚ} (h : x.toRat? = some q) :
    |q| < 2 ^ (53 + maxExponent) := by
  cases x with
  | infinite negative => cases h
  | nan => cases h
  | finite negative significand exponent =>
    obtain ⟨hsig, hexp⟩ := hx
    have hnonneg : (0 : ℚ) ≤ (significand : ℚ) * 2 ^ exponent := by positivity
    have hcast : (significand : ℚ) < 2 ^ (53 : Int) := by exact_mod_cast hsig
    have hmagnitude : (significand : ℚ) * 2 ^ exponent < 2 ^ (53 + maxExponent) := by
      rw [zpow_add₀ (by norm_num)]
      calc (significand : ℚ) * 2 ^ exponent < 2 ^ (53 : Int) * 2 ^ exponent := by gcongr
        _ ≤ 2 ^ (53 : Int) * 2 ^ maxExponent := by
            gcongr
            norm_num
    rw [toRat?, Option.some.injEq] at h
    subst h
    split
    · rwa [abs_neg, abs_of_nonneg hnonneg]
    · rwa [abs_of_nonneg hnonneg]

theorem toRat?_of_toInt? {x : Binary64} {n : Int} (h : x.toInt? = some n) :
    x.toRat? = some (n : ℚ) := by
  rw [toInt?] at h
  cases hq : x.toRat? with
  | none =>
    rw [hq] at h
    cases h
  | some q =>
    rw [hq] at h
    obtain ⟨hden, rfl⟩ : q.den = 1 ∧ q.num = n := by simpa using h
    rw [Rat.coe_int_num_of_den_eq_one hden]

/-- An integer that is a number in range can be written. -/
theorem InRange.fits {x : Binary64} (hx : x.InRange) {n : Int} (h : x.toInt? = some n) :
    Numeral.fits n = true := by
  have hq := hx.abs_lt (toRat?_of_toInt? h)
  have habs : |(n : ℚ)| = (n.natAbs : ℚ) := by rw [Nat.cast_natAbs, Int.cast_abs]
  -- only that the power is small counts, and it is never computed
  obtain ⟨k, hexp, hk⟩ : ∃ k : ℕ, 53 + maxExponent = k ∧ k ≤ Numeral.digitLimit :=
    ⟨1024, rfl, by decide⟩
  rw [habs, hexp, zpow_natCast] at hq
  have hlt : n.natAbs < 2 ^ k := by exact_mod_cast hq
  exact Numeral.fits_of_lt (lt_of_lt_of_le hlt (Nat.pow_le_pow_left (by omega) k)) hk

end IntentGateway.Binary64
