import IntentGateway.Fee
import IntentGateway.Proofs.Value.Shown
import Mathlib.Tactic.Linarith

/-! # Splitting an amount

A fee is the greatest number of units whose ten thousandfold is not above the amount times the rate
(`Fee.split_bounds`). Everything else that is known of fees is arithmetic with these two bounds:
both parts grow with the amount, and an amount that is paid in two parts costs at most one unit
less.

Whatever else is given as an amount or a rate is refused, and the refusal shows it. That takes a
text of the value; there is one unless an integer in the value has too many digits to be written or
the value is nested too deep (`Value.quotedWithin_eq_ok_iff`).
-/

namespace IntentGateway

namespace Fee

/-! ## Bounds -/

/-- The bounds that make a fee. -/
theorem split_bounds (gross bps : Int) :
    (split gross bps).fee * 10000 ≤ gross * bps
      ∧ gross * bps < ((split gross bps).fee + 1) * 10000 := by
  simp only [split, denominator, Int.fdiv_eq_ediv_of_nonneg _ (show (0 : Int) ≤ 10000 by decide)]
  omega

/-- What makes two numbers the parts of an amount at a rate. -/
structure Splits (gross bps : Int) (parts : FeeSplit) : Prop where
  whole : parts.fee + parts.net = gross
  fee_nonneg : 0 ≤ parts.fee
  fee_le : parts.fee ≤ gross
  le_share : parts.fee * 10000 ≤ gross * bps
  share_lt : gross * bps < (parts.fee + 1) * 10000

variable {gross gross' bps bps' : Int}

theorem splits_split (hgross : 0 < gross) (hlow : 0 ≤ bps) (hhigh : bps ≤ 10000) :
    Splits gross bps (split gross bps) := by
  obtain ⟨hle, hlt⟩ := split_bounds gross bps
  have hshare : 0 ≤ gross * bps := by positivity
  have hshare' : gross * bps ≤ gross * 10000 := by gcongr
  exact ⟨split_fee_add_net gross bps, by omega, by omega, hle, hlt⟩

/-- A greater share makes no lesser fee. -/
theorem split_fee_le_of_share (h : gross * bps ≤ gross' * bps') :
    (split gross bps).fee ≤ (split gross' bps').fee := by
  have hle := (split_bounds gross bps).1
  have hlt := (split_bounds gross' bps').2
  omega

/-- Of more, no less is kept. -/
theorem split_fee_mono (h : gross ≤ gross') (hlow : 0 ≤ bps) :
    (split gross bps).fee ≤ (split gross' bps).fee :=
  split_fee_le_of_share (by gcongr)

/-- At a higher rate, no less is kept. -/
theorem split_fee_mono_rate (hgross : 0 ≤ gross) (h : bps ≤ bps') :
    (split gross bps).fee ≤ (split gross bps').fee :=
  split_fee_le_of_share (by gcongr)

/-- Of more, no less is left. -/
theorem split_net_mono (h : gross ≤ gross') (hhigh : bps ≤ 10000) :
    (split gross bps).net ≤ (split gross' bps).net := by
  have hsum := split_fee_add_net gross bps
  have hsum' := split_fee_add_net gross' bps
  have hlt := (split_bounds gross bps).2
  have hle := (split_bounds gross' bps).1
  -- what is more grows the share by no more than itself
  have hmore : (gross' - gross) * bps ≤ (gross' - gross) * 10000 := by gcongr
  rw [sub_mul] at hmore
  omega

/-- Paid in two parts, an amount costs no more, and at most one unit less. -/
theorem split_fee_add (gross gross' bps : Int) :
    (split gross bps).fee + (split gross' bps).fee ≤ (split (gross + gross') bps).fee
      ∧ (split (gross + gross') bps).fee
        ≤ (split gross bps).fee + (split gross' bps).fee + 1 := by
  obtain ⟨hle, hlt⟩ := split_bounds gross bps
  obtain ⟨hle', hlt'⟩ := split_bounds gross' bps
  obtain ⟨hwhole, hwhole'⟩ := split_bounds (gross + gross') bps
  rw [add_mul] at hwhole hwhole'
  constructor <;> omega

/-! ## Refusals -/

/-- Whether a value is a positive amount. -/
def IsGross (v : Value) : Prop :=
  ∃ n : Int, v = .int n ∧ 0 < n

/-- Whether a value is a rate from nothing to the whole. -/
def IsRate (v : Value) : Prop :=
  ∃ n : Int, v = .int n ∧ 0 ≤ n ∧ n ≤ 10000

section Refusals

variable [Nesting]

/-- What a value that is refused for a reason is refused with: that reason with the value's text
exactly if there is a text to show, and else that an integer in it is too large, or that it is
nested too deep. -/
structure Refuses (reason : Reason) (key : RawText) (v : Value) (failure : Failure) : Prop where
  told : (∃ s, v.quoted = .ok s ∧ failure = .plain reason [(key, .str s)])
    ↔ ¬ v.HasLong ∧ v.Layers Nesting.shown
  untold : ¬ (¬ v.HasLong ∧ v.Layers Nesting.shown) →
    failure = .numeral .tooLarge ∧ v.HasLong
      ∨ failure = .tooDeep .showing ∧ ¬ v.Layers Nesting.shown

/-- Of a value that is not nested too deep, only an integer that is too large is not told. -/
theorem Refuses.eq_tooLarge_iff {reason : Reason} {key : RawText} {v : Value} {failure : Failure}
    (h : Refuses reason key v failure) (hv : v.Layers Nesting.shown) :
    failure = .numeral .tooLarge ↔ v.HasLong := by
  constructor
  · rintro rfl
    by_contra hlong
    obtain ⟨_, _, hsame⟩ := h.told.mpr ⟨hlong, hv⟩
    cases hsame
  · intro hlong
    obtain ⟨hfailure, _⟩ | ⟨_, hdeep⟩ := h.untold fun hshown => hshown.1 hlong
    · exact hfailure
    · exact absurd hv hdeep

/-- A value that is refused by its text is so exactly if it can be shown. -/
theorem shown_bind_refuses {α : Type} (reason : Reason) (key : RawText) (v : Value) :
    ∃ failure, Refuses reason key v failure
      ∧ (v.shown >>= fun s => (.error (.plain reason [(key, .str s)]) : Except Failure α))
        = .error failure := by
  cases hquoted : v.quoted with
  | ok s =>
    have htold : ¬ v.HasLong ∧ v.Layers Nesting.shown :=
      Value.quotedWithin_eq_ok_iff.mp ⟨s, hquoted⟩
    refine ⟨.plain reason [(key, .str s)], ⟨iff_of_true ⟨s, hquoted, rfl⟩ htold, ?_⟩,
      by rw [Value.shown, hquoted]; rfl⟩
    exact fun hnot => absurd htold hnot
  | error e =>
    have hnot : ¬ (¬ v.HasLong ∧ v.Layers Nesting.shown) := by
      rw [← Value.quotedWithin_eq_ok_iff]
      rintro ⟨s, hs⟩
      rw [← Value.quoted, hquoted] at hs
      cases hs
    refine ⟨.ofUnshowable e, ⟨iff_of_false ?_ hnot, fun _ => ?_⟩,
      by rw [Value.shown, hquoted]; rfl⟩
    · rintro ⟨s, hs, _⟩
      rw [hquoted] at hs
      cases hs
    · obtain ⟨rfl, hlong⟩ | ⟨rfl, hdeep⟩ := Value.of_quotedWithin_eq_error hquoted
      · exact .inl ⟨rfl, hlong⟩
      · exact .inr ⟨rfl, hdeep⟩

/-- What is no positive amount is refused, whatever the rate. -/
theorem splitOf_of_not_isGross {gross : Value} (h : ¬ IsGross gross) (bps : Value) :
    ∃ failure, Refuses .invalidAmount "gross_amount" gross failure
      ∧ splitOf gross bps = .error failure := by
  obtain ⟨failure, hrefuses, hshown⟩ :=
    shown_bind_refuses (α := Int) .invalidAmount "gross_amount" gross
  have hgross : grossAmount gross = .error failure := by
    rw [grossAmount.eq_def]
    split
    · rename_i n
      rw [if_neg fun hn => h ⟨n, rfl, hn⟩]
      exact hshown
    · exact hshown
  exact ⟨failure, hrefuses, by rw [splitOf, hgross]; rfl⟩

/-- Of a positive amount, what is no rate is refused; an integer is shown as it is. -/
theorem splitOf_of_not_isRate {gross : Value} (hgross : IsGross gross) {bps : Value}
    (h : ¬ IsRate bps) :
    (∃ n, bps = .int n
        ∧ splitOf gross bps = .error (.plain .invalidFeeRate [("fee_bps", .int n)]))
      ∨ bps.int? = none ∧ ∃ failure, Refuses .invalidFeeRate "fee_bps" bps failure
        ∧ splitOf gross bps = .error failure := by
  have hamount : ∃ n, grossAmount gross = .ok n := by
    obtain ⟨n, rfl, hn⟩ := hgross
    exact ⟨n, grossAmount_eq_ok_iff.mpr ⟨rfl, hn⟩⟩
  obtain ⟨amount, hamount⟩ := hamount
  have hsplit {failure : Failure} (hrate : rate bps = .error failure) :
      splitOf gross bps = .error failure := by
    rw [splitOf, hamount]
    show (rate bps >>= fun share => .ok (split amount share)) = .error failure
    rw [hrate]
    rfl
  obtain ⟨failure, hrefuses, hshown⟩ :=
    shown_bind_refuses (α := Int) .invalidFeeRate "fee_bps" bps
  cases bps with
  | int n =>
    refine Or.inl ⟨n, rfl, hsplit ?_⟩
    exact if_neg fun hn => h ⟨n, rfl, hn⟩
  | _ => exact Or.inr ⟨rfl, failure, hrefuses, hsplit hshown⟩

/-- A positive amount is split at a rate into a fee between its bounds and the rest. Of more, no
less is kept and no less is left, and at a higher rate no less is kept; in two parts an amount costs
no more, and at most one unit less. Whatever else is given is refused, the amount before the rate,
for its own reason exactly if no integer in it has more than 4300 digits and it is not nested deeper
than can be shown; otherwise only that is reported. An integer that is no rate is refused as such at
any length. -/
theorem splitOf_splits_or_refuses (amount amount' share share' : Int) (gross bps : Value) :
    (0 < amount → 0 ≤ share → share ≤ 10000 →
        splitOf (.int amount) (.int share) = .ok (split amount share)
          ∧ Splits amount share (split amount share))
      ∧ (amount ≤ amount' → 0 ≤ share → share ≤ 10000 →
        (split amount share).fee ≤ (split amount' share).fee
          ∧ (split amount share).net ≤ (split amount' share).net)
      ∧ (0 < amount → share ≤ share' →
        (split amount share).fee ≤ (split amount share').fee)
      ∧ (split amount share).fee + (split amount' share).fee
        ≤ (split (amount + amount') share).fee
      ∧ (split (amount + amount') share).fee
        ≤ (split amount share).fee + (split amount' share).fee + 1
      ∧ (¬ IsGross gross →
        ∃ failure, Refuses .invalidAmount "gross_amount" gross failure
          ∧ splitOf gross bps = .error failure)
      ∧ (IsGross gross → ¬ IsRate bps →
        (∃ n, bps = .int n
            ∧ splitOf gross bps = .error (.plain .invalidFeeRate [("fee_bps", .int n)]))
          ∨ bps.int? = none ∧ ∃ failure, Refuses .invalidFeeRate "fee_bps" bps failure
            ∧ splitOf gross bps = .error failure) := by
  obtain ⟨hmore, hless⟩ := split_fee_add amount amount' share
  refine ⟨fun hamount hlow hhigh => ⟨?_, splits_split hamount hlow hhigh⟩,
    fun h hlow hhigh => ⟨split_fee_mono h hlow, split_net_mono h hhigh⟩,
    fun hamount h => split_fee_mono_rate hamount.le h, hmore, hless,
    fun h => splitOf_of_not_isGross h bps, fun hgross h => splitOf_of_not_isRate hgross h⟩
  rw [splitOf, grossAmount_eq_ok_iff.mpr ⟨rfl, hamount⟩]
  show (rate (.int share) >>= fun b => .ok (split amount b)) = _
  rw [rate_eq_ok_iff.mpr ⟨rfl, hlow, hhigh⟩]
  rfl

end Refusals

/-- The amount 999 is split at a rate of 250, and a truth value is refused. -/
theorem splitOf_splits_or_refuses_999 :
    splitOf (.int 999) (.int 250) = .ok ⟨24, 975⟩
      ∧ splitOf (.bool true) .null
        = .error (.plain .invalidAmount [("gross_amount", .str "True")]) := by
  obtain ⟨hsplit, _, _, _, _, hrefused, _⟩ :=
    splitOf_splits_or_refuses 999 1000 250 250 (.bool true) .null
  refine ⟨(hsplit (by decide) (by decide) (by decide)).1, ?_⟩
  obtain ⟨failure, hrefuses, hended⟩ := hrefused fun ⟨_, h, _⟩ => nomatch h
  obtain ⟨s, hs, rfl⟩ := hrefuses.told.mpr ⟨by rintro ⟨⟩, .scalar rfl⟩
  cases hs
  exact hended

/-- A negative amount with 4301 digits is no amount, and is not refused as one. -/
theorem not_refused_amount_of_long :
    ¬ IsGross (.int (-10 ^ Numeral.digitLimit))
      ∧ splitOf (.int (-10 ^ Numeral.digitLimit)) (.int 250) = .error (.numeral .tooLarge)
      ∧ ¬ ∃ details, splitOf (.int (-10 ^ Numeral.digitLimit)) (.int 250)
        = .error (.plain .invalidAmount details) := by
  have hgross : ¬ IsGross (.int (-10 ^ Numeral.digitLimit)) := by
    rintro ⟨n, h, hn⟩
    rw [← Value.int.inj h] at hn
    exact absurd hn (not_lt.mpr (neg_nonpos.mpr (by positivity)))
  have hlong : (Value.int (-10 ^ Numeral.digitLimit)).HasLong := by
    rw [Value.hasLong_int, Int.natAbs_neg, Int.natAbs_pow, show Int.natAbs 10 = 10 from rfl]
  obtain ⟨failure, hrefuses, hended⟩ := splitOf_of_not_isGross hgross (.int 250)
  have hfailure : failure = .numeral .tooLarge :=
    (hrefuses.eq_tooLarge_iff (.scalar rfl)).mpr hlong
  rw [hended, hfailure]
  exact ⟨hgross, rfl, fun ⟨_, h⟩ => nomatch h⟩

end Fee

end IntentGateway
