import IntentGateway.Failure

/-! # Fees

Of the gross amount of a payment the gateway keeps a share, counted in basis points, and the
merchant gets the rest. The fee is rounded down, so both parts together are the gross amount.
-/

namespace IntentGateway

/-- A gross amount split in two. -/
structure FeeSplit where
  fee : Int
  net : Int
  deriving Repr, DecidableEq

namespace Fee

/-- The number of basis points in the whole. -/
def denominator : Int := 10000

/-- The share of an amount, rounded down, and the rest. -/
def split (gross bps : Int) : FeeSplit :=
  let fee := Int.fdiv (gross * bps) denominator
  { fee, net := gross - fee }

/-- Nothing of an amount is lost when it is split. -/
theorem split_fee_add_net (gross bps : Int) :
    (split gross bps).fee + (split gross bps).net = gross := by
  simp only [split]
  omega

variable [Nesting]

/-- Takes a fee rate between nothing and the whole. -/
def rate (bps : Value) : Except Failure Int :=
  match bps with
  | .int n =>
    if 0 ≤ n ∧ n ≤ denominator then .ok n
    else .error (.plain .invalidFeeRate [("fee_bps", .int n)])
  | v => do .error (.plain .invalidFeeRate [("fee_bps", .str (← v.shown))])

/-- Takes a positive amount. -/
def grossAmount (gross : Value) : Except Failure Int :=
  match gross with
  | .int n =>
    if 0 < n then .ok n
    else do .error (.plain .invalidAmount [("gross_amount", .str (← gross.shown))])
  | v => do .error (.plain .invalidAmount [("gross_amount", .str (← v.shown))])

/-- Rates are the integers from nothing to the whole. -/
theorem rate_eq_ok_iff {bps : Value} {n : Int} :
    rate bps = .ok n ↔ bps = .int n ∧ 0 ≤ n ∧ n ≤ denominator := by
  constructor
  · intro h
    unfold rate at h
    split at h
    · split at h
      · rename_i hn
        cases h
        exact ⟨rfl, hn⟩
      · cases h
    · obtain ⟨_, _, h⟩ := Failure.bind_eq_ok h
      cases h
  · rintro ⟨rfl, hn⟩
    rw [rate, if_pos hn]

/-- Gross amounts are the positive integers. -/
theorem grossAmount_eq_ok_iff {gross : Value} {n : Int} :
    grossAmount gross = .ok n ↔ gross = .int n ∧ 0 < n := by
  constructor
  · intro h
    unfold grossAmount at h
    split at h
    · split at h
      · rename_i hn
        cases h
        exact ⟨rfl, hn⟩
      · obtain ⟨_, _, h⟩ := Failure.bind_eq_ok h
        cases h
    · obtain ⟨_, _, h⟩ := Failure.bind_eq_ok h
      cases h
  · rintro ⟨rfl, hn⟩
    rw [grossAmount, if_pos hn]

/-- Splits an amount at a rate. A bad amount is reported before a bad rate. -/
def splitOf (gross bps : Value) : Except Failure FeeSplit := do
  let amount ← grossAmount gross
  let share ← rate bps
  .ok (split amount share)

end Fee

end IntentGateway
