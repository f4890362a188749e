import IntentGateway.Proofs.Address.Canonical
import IntentGateway.Proofs.Gateway.Origin
import Mathlib.Algebra.Order.Floor.Ring
import Mathlib.Data.Rat.Floor

/-! # Well-formed intents

In every store that a gateway comes to have, the ids are the numbers from one on, and each intent is
well-formed: its terms add up, it is refunded only if it has been paid, and what is recorded of its
payment is there exactly if it has been paid. The last is no matter of types, since each column may
be empty by itself; it says that the columns are those of one settlement, or none
(`Intent.wellFormed_iff`). The invariant is kept by each operation, whatever it is given and whether
or not it succeeds.
-/

namespace IntentGateway

/-- Terms that add up. -/
structure Terms.WellFormed (terms : Terms) : Prop where
  gross_pos : 0 < terms.grossAmount
  feeBps_nonneg : 0 ≤ terms.feeBps
  feeBps_le : terms.feeBps ≤ 10000
  fee_eq_floor : terms.feeAmount = ⌊(terms.grossAmount * terms.feeBps : ℚ) / 10000⌋
  fee_add_net : terms.feeAmount + terms.netAmount = terms.grossAmount
  createdAt_lt_expiry : terms.createdAt < terms.expiry
  merchant_canonical : Address.IsCanonical terms.merchant

/-- An intent whose parts fit together. -/
structure Intent.WellFormed (intent : Intent) : Prop where
  terms : intent.toTerms.WellFormed
  paid_of_refunded : intent.refunded = true → intent.paid = true
  settled : intent.paid = true →
    (∃ payer, intent.payer = some payer ∧ Address.IsCanonical payer)
      ∧ (∃ amount, intent.paidAmount = some amount ∧ intent.grossAmount ≤ amount)
      ∧ ∃ time, intent.paidAt = some time
  unsettled : intent.paid = false →
    intent.payer = none ∧ intent.paidAmount = none ∧ intent.txHash = none
      ∧ intent.blockNumber = none ∧ intent.paidAt = none

/-- A store whose ids are the numbers from one on and whose intents are all well-formed. -/
structure Store.WellFormed (store : Store) : Prop where
  ids : store.intents.map (·.id) = List.range' 1 store.intents.length
  intents : ∀ intent ∈ store.intents, intent.WellFormed

/-! ## Accepted terms -/

/-- Whether terms are those of a new intent, each part as its check has let it through. -/
structure Terms.AcceptedFor [Nesting] (terms : Terms) (policy : Policy)
    (merchant gross token feeBps lifetime : Value) (now : Int) : Prop where
  rate : Fee.rate (Operation.orPolicy feeBps policy.feeBps) = .ok terms.feeBps
  gross : Fee.grossAmount gross = .ok terms.grossAmount
  parts : Fee.split terms.grossAmount terms.feeBps = ⟨terms.feeAmount, terms.netAmount⟩
  merchant : Address.normalize "merchant" merchant = .ok terms.merchant
  token : Operation.checkToken policy token = .ok terms.token
  lifetime : Operation.checkLifetime (Operation.orPolicy lifetime policy.lifetime)
    = .ok (terms.expiry - terms.createdAt)
  createdAt : terms.createdAt = now

namespace Operation

variable {policy : Policy} {merchant gross token feeBps lifetime : Value} {now : Int}
  {accepted : Terms}

theorem terms_eq_ok_iff [Nesting] :
    terms policy merchant gross token feeBps lifetime now = .ok accepted ↔
      accepted.AcceptedFor policy merchant gross token feeBps lifetime now := by
  constructor
  · intro h
    obtain ⟨bps, hbps, h⟩ := Failure.bind_eq_ok h
    obtain ⟨amount, hamount, h⟩ := Failure.bind_eq_ok h
    obtain ⟨address, haddress, h⟩ := Failure.bind_eq_ok h
    obtain ⟨asset, hasset, h⟩ := Failure.bind_eq_ok h
    obtain ⟨seconds, hseconds, h⟩ := Failure.bind_eq_ok h
    cases h
    have hlifetime : now + seconds - now = seconds := add_sub_cancel_left now seconds
    exact ⟨hbps, hamount, rfl, haddress, hasset, hlifetime.symm ▸ hseconds, rfl⟩
  · intro h
    rw [terms, h.rate, h.gross, h.merchant, h.token, h.lifetime]
    show Except.ok (
      { merchant := accepted.merchant, token := accepted.token
        grossAmount := accepted.grossAmount, feeBps := accepted.feeBps
        feeAmount := (Fee.split accepted.grossAmount accepted.feeBps).fee
        netAmount := (Fee.split accepted.grossAmount accepted.feeBps).net
        createdAt := now, expiry := now + (accepted.expiry - accepted.createdAt) } : Terms) = _
    rw [h.parts, ← h.createdAt, add_sub_cancel]

/-- Accepted terms are those of the time at which they are asked for. -/
theorem createdAt_of_terms [Nesting]
    (h : terms policy merchant gross token feeBps lifetime now = .ok accepted) :
    accepted.createdAt = now :=
  (terms_eq_ok_iff.mp h).createdAt

/-- Accepted terms have the gross amount that is asked for. -/
theorem gross_of_terms [Nesting]
    (h : terms policy merchant gross token feeBps lifetime now = .ok accepted) :
    gross = .int accepted.grossAmount :=
  (Fee.grossAmount_eq_ok_iff.mp (terms_eq_ok_iff.mp h).gross).1

end Operation

/-! ## Building well-formed intents -/

/-- The fee is the exact share rounded down. -/
theorem Fee.split_fee_eq_floor (gross bps : Int) :
    (Fee.split gross bps).fee = ⌊(gross * bps : ℚ) / 10000⌋ := by
  have hfloor := Rat.floor_intCast_div_natCast (gross * bps) 10000
  rw [Fee.split, Fee.denominator, Int.fdiv_eq_ediv_of_nonneg _ (by omega)]
  push_cast at hfloor
  exact hfloor.symm

/-- Terms that are accepted are well-formed. -/
theorem Operation.terms_wellFormed [Nesting] {policy : Policy}
    {merchant gross token feeBps lifetime : Value} {now : Int} {terms : Terms}
    (h : Operation.terms policy merchant gross token feeBps lifetime now = .ok terms) :
    terms.WellFormed := by
  have haccepted := terms_eq_ok_iff.mp h
  obtain ⟨_, hlow, hhigh⟩ := Fee.rate_eq_ok_iff.mp haccepted.rate
  have hfee := Fee.split_fee_eq_floor terms.grossAmount terms.feeBps
  have hsum := Fee.split_fee_add_net terms.grossAmount terms.feeBps
  rw [haccepted.parts] at hfee hsum
  have hlifetime := (checkLifetime_eq_ok_iff.mp haccepted.lifetime).2
  exact {
    gross_pos := (Fee.grossAmount_eq_ok_iff.mp haccepted.gross).2
    feeBps_nonneg := hlow
    feeBps_le := hhigh
    fee_eq_floor := hfee
    fee_add_net := hsum
    createdAt_lt_expiry := by omega
    merchant_canonical := Address.isCanonical_of_normalize haccepted.merchant }

namespace Intent

/-- A new intent is well-formed if its terms are. -/
theorem wellFormed_new {terms : Terms} (h : terms.WellFormed) (id : ℕ) :
    (Intent.new terms id).WellFormed :=
  ⟨h, fun hr => absurd hr Bool.false_ne_true, fun hp => absurd hp Bool.false_ne_true,
    fun _ => ⟨rfl, rfl, rfl, rfl, rfl⟩⟩

/-- Recording a settlement that pays enough keeps an intent well-formed. -/
theorem WellFormed.settled_of_le {intent : Intent} (h : intent.WellFormed)
    {settlement : Settlement} (hpayer : Address.IsCanonical settlement.payer)
    (hamount : intent.grossAmount ≤ settlement.amount) : (intent.settled settlement).WellFormed :=
  ⟨h.terms, fun _ => rfl,
    fun _ => ⟨⟨settlement.payer, rfl, hpayer⟩, ⟨settlement.amount, rfl, hamount⟩,
      settlement.paidAt, rfl⟩,
    fun hp => absurd hp.symm Bool.false_ne_true⟩

/-- An intent is well-formed if its terms are, it is refunded only if it has been paid, and its
columns are all those of a settlement that pays it, or all those of an unpaid intent. -/
theorem wellFormed_iff {intent : Intent} :
    intent.WellFormed ↔ intent.toTerms.WellFormed
      ∧ (intent.refunded = true → intent.paid = true)
      ∧ (intent.toPaymentColumns = .unpaid
        ∨ ∃ settlement : Settlement, intent.toPaymentColumns = settlement.columns
          ∧ Address.IsCanonical settlement.payer ∧ intent.grossAmount ≤ settlement.amount) := by
  constructor
  · intro h
    refine ⟨h.terms, h.paid_of_refunded, ?_⟩
    cases hp : intent.paid with
    | false =>
      obtain ⟨hpayer, hamount, hhash, hblock, htime⟩ := h.unsettled hp
      exact Or.inl (PaymentColumns.ext hp hpayer hamount hhash hblock htime)
    | true =>
      obtain ⟨⟨payer, hpayer, hcanonical⟩, ⟨amount, hamount, hle⟩, time, htime⟩ := h.settled hp
      exact Or.inr ⟨⟨payer, amount, intent.txHash, intent.blockNumber, time⟩,
        PaymentColumns.ext hp hpayer hamount rfl rfl htime, hcanonical, hle⟩
  · rintro ⟨hterms, hrefund, hnone | ⟨settlement, hsome, hcanonical, hle⟩⟩
    · refine ⟨hterms, hrefund, fun hp => ?_, fun _ => ?_⟩
      · rw [hnone] at hp
        cases hp
      · rw [hnone]
        exact ⟨rfl, rfl, rfl, rfl, rfl⟩
    · refine ⟨hterms, hrefund, fun _ => ?_, fun hp => ?_⟩
      · rw [hsome]
        exact ⟨⟨_, rfl, hcanonical⟩, ⟨_, rfl, hle⟩, _, rfl⟩
      · rw [hsome] at hp
        cases hp

/-- What has been paid is enough. -/
theorem WellFormed.gross_le_paid {intent : Intent} (h : intent.WellFormed) {n : Int}
    (hn : intent.paidAmount = some n) : intent.grossAmount ≤ n := by
  cases hp : intent.paid with
  | false =>
    rw [(h.unsettled hp).2.1] at hn
    cases hn
  | true =>
    obtain ⟨amount, hamount, hle⟩ := (h.settled hp).2.1
    rw [hn, Option.some.injEq] at hamount
    omega

/-- Recording the refund of a paid intent keeps it well-formed. -/
theorem WellFormed.withRefund {intent : Intent} (h : intent.WellFormed)
    (hp : intent.paid = true) : intent.withRefund.WellFormed :=
  ⟨h.terms, fun _ => hp, h.settled, h.unsettled⟩

end Intent

/-! ## The invariant -/

/-- The payer of an errand is canonical, since it has been checked. -/
theorem Operation.payer_of_errand [Nesting] {operation : Operation} {clock id now : Int}
    {remittance : Operation.Remittance} {recipient : Option String}
    (h : operation.errand clock = .ok (some (.settle id now remittance recipient))) :
    Address.IsCanonical remittance.payer := by
  cases operation with
  | markPaid payment time =>
    rw [errand] at h
    split at h
    · cases h
    · obtain ⟨amount, _, h⟩ := Failure.bind_eq_ok h
      obtain ⟨payer, hpayer, h⟩ := Failure.bind_eq_ok h
      obtain ⟨recipient, _, h⟩ := Failure.bind_eq_ok h
      cases h
      exact Address.isCanonical_of_normalize hpayer
  | pay id payer time =>
    obtain ⟨address, hpayer, h⟩ := Failure.bind_eq_ok h
    cases h
    exact Address.isCanonical_of_normalize hpayer
  | _ => cases h

/-- Every row that an operation makes is well-formed. -/
theorem Operation.wellFormed_of_made [Nesting] {store : Store} {operation : Operation}
    {made : Intent}
    (h : Made store operation made) (hw : ∀ intent ∈ store.intents, intent.WellFormed) :
    made.WellFormed := by
  cases h with
  | created ht _ => exact Intent.wellFormed_new (terms_wellFormed ht) _
  | @settled _ _ _ _ remittance _ intent herrand hl hf _ =>
    -- an amount that is not given counts as the gross amount
    refine (hw intent (Store.mem_of_lookup hl)).settled_of_le (payer_of_errand herrand) ?_
    have hle := (settleRefusal?_eq_none_iff.mp hf).2.confirmed
    simp only [Remittance.settlementOf]
    cases hconfirmed : remittance.confirmed with
    | none => exact le_refl _
    | some amount => exact hle amount hconfirmed
  | refunded hmem hp => exact (hw _ hmem).withRefund hp

/-- The invariant of all stores that a gateway comes to have. -/
theorem Store.kept_wellFormed [Nesting] :
    Kept fun store => store.Sound ∧ ∀ intent ∈ store.intents, intent.WellFormed :=
  kept_of_made fun hw hmade => Operation.wellFormed_of_made hmade hw

/-- Whatever has happened to a gateway that began without intents, the invariant holds. -/
theorem Gateway.intents_wellFormed_after [Nesting] (policy : Policy) (clock : Rat)
    (events : List Event) :
    let store := ((Gateway.fresh policy clock).after events).store
    store.Sound ∧ ∀ intent ∈ store.intents, intent.WellFormed :=
  rows_after Store.kept_wellFormed policy clock events

/-- Every store that a gateway comes to have is well-formed. -/
theorem Gateway.wellFormed_after [Nesting] (policy : Policy) (clock : Rat) (events : List Event) :
    ((Gateway.fresh policy clock).after events).store.WellFormed := by
  obtain ⟨hs, hw⟩ := intents_wellFormed_after policy clock events
  exact ⟨hs.ids, hw⟩

end IntentGateway
