import IntentGateway.Gateway.Operation
import IntentGateway.Proofs.Store.Effect

/-! # What settling and refunding come to

The call that settles an intent, run to its end without interruption, either leaves the store as it
is or records exactly one settlement on an open intent; likewise for the call that refunds one.
Which of them it is depends only on the row that the id names.
-/

namespace IntentGateway

/-- Whether terms allow a payment: the recipient is the merchant if there is one, and the amount is
enough if there is one. -/
structure Terms.Allow (terms : Terms) (recipient : Option String) (confirmed : Option Int) :
    Prop where
  recipient : ∀ address, recipient = some address → address = terms.merchant
  confirmed : ∀ amount, confirmed = some amount → terms.grossAmount ≤ amount

theorem Terms.allow_some_iff {terms : Terms} {address : String} {amount : Int} :
    terms.Allow (some address) (some amount) ↔
      address = terms.merchant ∧ terms.grossAmount ≤ amount := by
  constructor
  · intro h
    exact ⟨h.recipient address rfl, h.confirmed amount rfl⟩
  · rintro ⟨haddress, hamount⟩
    exact ⟨by rintro _ ⟨⟩; exact haddress, by rintro _ ⟨⟩; exact hamount⟩

namespace Operation

open Store (checkSettlement)

/-! ## Reading the intent -/

/-- An intent that is there is read. -/
theorem step_load_of_found {store : Store} (hs : store.Sound) {id : Int} {intent : Intent}
    (h : store.lookup id = some intent) (next : Intent → Call Outcome) :
    (load id next).step store = (next intent, store) := by
  obtain ⟨hmax, hfit⟩ := hs.id_fits h
  rw [load, if_neg (Int.not_lt.mpr hmax), Call.step, Store.find_eq, if_pos hfit, h]
  rfl

/-- An intent that is not there makes the call end. -/
theorem step_load_of_missing {store : Store} {id : Int} (h : store.lookup id = none)
    (next : Intent → Call Outcome) :
    ∃ failure, (load id next).step store = (.done (.error failure), store) := by
  rw [load]
  split
  · exact ⟨_, rfl⟩
  · rw [Call.step, Store.find_eq]
    cases Store.fitsColumn id with
    | false => exact ⟨_, rfl⟩
    | true =>
      rw [if_pos rfl, h]
      exact ⟨_, rfl⟩

theorem run_load_of_found {store : Store} (hs : store.Sound) {id : Int} {intent : Intent}
    (h : store.lookup id = some intent) (next : Intent → Call Outcome) :
    (load id next).run store = (next intent).run store := by
  rw [← Call.run_step, step_load_of_found hs h]

theorem run_load_of_missing {store : Store} {id : Int} (h : store.lookup id = none)
    (next : Intent → Call Outcome) :
    ∃ failure, (load id next).run store = (.error failure, store) := by
  obtain ⟨failure, hstep⟩ := step_load_of_missing h next
  exact ⟨failure, Call.run_of_step hstep⟩

/-- An id that no intent has is refused, however large it is. -/
theorem run_load_of_unknown {store : Store} {id : Int} (h0 : 0 ≤ id)
    (h : store.lookup id = none) (next : Intent → Call Outcome) :
    (load id next).run store = (.error (notFound id), store) := by
  rw [load]
  split
  · rfl
  · rename_i hmax
    have hfit : Store.fitsColumn id = true := by
      rw [Store.fitsColumn, Bool.and_eq_true, decide_eq_true_iff, decide_eq_true_iff]
      simp only [Store.maxId, Store.columnLimit] at hmax ⊢
      omega
    rw [Call.run, Store.find_eq, if_pos hfit, h]
    rfl

/-! ## Settling -/

/-- An intent that is not simply paid is settled if it is not refunded and its terms allow it. -/
theorem settleRefusal?_eq_none_iff {intent : Intent} {recipient : Option String}
    {confirmed : Option Int} :
    settleRefusal? intent recipient confirmed = none ↔
      intent.refunded = false ∧ intent.toTerms.Allow recipient confirmed := by
  have hallow : intent.toTerms.Allow recipient confirmed ↔
      (∀ address, recipient = some address → address = intent.merchant)
        ∧ ∀ amount, confirmed = some amount → intent.grossAmount ≤ amount :=
    ⟨fun h => ⟨h.recipient, h.confirmed⟩, fun h => ⟨h.1, h.2⟩⟩
  rw [settleRefusal?, hallow]
  cases hr : intent.refunded with
  | true => simp
  | false =>
    cases recipient with
    | none => cases confirmed <;> simp [Option.filter]
    | some address =>
      by_cases ha : address = intent.merchant
      · cases confirmed <;> simp [Option.filter, ha]
      · simp [Option.filter, ha]

variable {store : Store} (hs : store.Sound) {id : Int} {intent : Intent} (now : Int)
  (remittance : Remittance) (recipient : Option String)

/-- Settling a paid intent shows it. -/
theorem settlingRead_of_paid (hp : intent.paid = true) (hr : intent.refunded = false) :
    settlingRead id now remittance recipient intent = showing intent now := by
  rw [settlingRead, hp, hr]
  rfl

/-- Settling against the terms, or after a refund, is refused. -/
theorem settlingRead_of_refusal {failure : Failure}
    (hp : intent.paid = false ∨ intent.refunded = true)
    (hf : settleRefusal? intent recipient remittance.confirmed = some failure) :
    settlingRead id now remittance recipient intent = .fail failure := by
  rw [settlingRead, if_neg (by rcases hp with hp | hp <;> simp [hp]), hf]

/-- Settling an open intent goes on to its update. -/
theorem settlingRead_of_unpaid (hp : intent.paid = false)
    (hf : settleRefusal? intent recipient remittance.confirmed = none) :
    settlingRead id now remittance recipient intent
      = .settle id (remittance.settlementOf intent.grossAmount) (afterSettling id now) := by
  rw [settlingRead, if_neg (by simp [hp]), hf]

/-- Settling an intent that has been read shows it, fails, or goes on to the update. -/
theorem settlingRead_cases (id : Int) (intent : Intent) :
    (intent.paid = true ∧ intent.refunded = false
        ∧ settlingRead id now remittance recipient intent = showing intent now)
      ∨ (∃ failure, settlingRead id now remittance recipient intent = .fail failure)
      ∨ intent.paid = false
        ∧ settleRefusal? intent recipient remittance.confirmed = none := by
  by_cases hpaid : intent.paid = true ∧ intent.refunded = false
  · exact Or.inl ⟨hpaid.1, hpaid.2, settlingRead_of_paid now remittance recipient hpaid.1 hpaid.2⟩
  · have hp : intent.paid = false ∨ intent.refunded = true := by
      rcases Bool.eq_false_or_eq_true intent.paid with hp | hp
      · refine Or.inr ((Bool.eq_false_or_eq_true intent.refunded).resolve_right fun hr => ?_)
        exact hpaid ⟨hp, hr⟩
      · exact Or.inl hp
    right
    cases hf : settleRefusal? intent recipient remittance.confirmed with
    | some failure =>
      exact Or.inl ⟨failure, settlingRead_of_refusal now remittance recipient hp hf⟩
    | none =>
      have hr := (settleRefusal?_eq_none_iff.mp hf).1
      exact Or.inr ⟨hp.resolve_right (by simp [hr]), rfl⟩

/-- A settlement that fits no column fails. -/
theorem run_settlingRead_of_misfit {e : StorageError}
    (hp : intent.paid = false) (hf : settleRefusal? intent recipient remittance.confirmed = none)
    (hc : checkSettlement id (remittance.settlementOf intent.grossAmount) = .error e) :
    (settlingRead id now remittance recipient intent).run store
      = (.error (.storage e), store) := by
  rw [settlingRead_of_unpaid now remittance recipient hp hf, Call.run, Store.settle_of_misfit hc]

include hs in
/-- Settling an open intent records the settlement and shows the intent with it. -/
theorem run_settlingRead_of_open (h : store.lookup id = some intent) (hp : intent.paid = false)
    (hf : settleRefusal? intent recipient remittance.confirmed = none)
    (hc : checkSettlement id (remittance.settlementOf intent.grossAmount) = .ok ()) :
    (settlingRead id now remittance recipient intent).run store
      = (.ok (.view (.ofIntent
          (intent.settled (remittance.settlementOf intent.grossAmount)) now)),
        store.amend id (·.settled (remittance.settlementOf intent.grossAmount))) := by
  rw [settlingRead_of_unpaid now remittance recipient hp hf, Call.run,
    hs.settle_of_unpaid hc h hp]
  dsimp only
  have hs' := (Store.Effect.settle (remittance.settlementOf intent.grossAmount) h hp).sound hs
  rw [afterSettling, run_load_of_found hs' (Store.lookup_settled h _)]
  rfl

/-- What the call that settles an intent comes to. -/
inductive Settles (store : Store) (id now : Int) (remittance : Remittance)
    (recipient : Option String) : Except Failure Outcome × Store → Prop where
  /-- The intent is not there, or it is refused. -/
  | failed (failure : Failure) : Settles store id now remittance recipient (.error failure, store)
  | replayed {intent : Intent} (h : store.lookup id = some intent) (hp : intent.paid = true)
      (hr : intent.refunded = false) :
      Settles store id now remittance recipient (.ok (.view (.ofIntent intent now)), store)
  | settled {intent : Intent} (h : store.lookup id = some intent) (hp : intent.paid = false)
      (hf : settleRefusal? intent recipient remittance.confirmed = none)
      (hc : checkSettlement id (remittance.settlementOf intent.grossAmount) = .ok ()) :
      Settles store id now remittance recipient
        (.ok (.view (.ofIntent
          (intent.settled (remittance.settlementOf intent.grossAmount)) now)),
        store.amend id (·.settled (remittance.settlementOf intent.grossAmount)))

include hs in
theorem settles_load (id : Int) :
    Settles store id now remittance recipient
      ((load id (settlingRead id now remittance recipient)).run store) := by
  cases h : store.lookup id with
  | none =>
    obtain ⟨failure, hf⟩ := run_load_of_missing h (settlingRead id now remittance recipient)
    rw [hf]
    exact .failed failure
  | some intent =>
    rw [run_load_of_found hs h]
    rcases settlingRead_cases now remittance recipient id intent with
      ⟨hp, hr, hread⟩ | ⟨failure, hread⟩ | ⟨hp, hf⟩
    · rw [hread]
      exact .replayed h hp hr
    · rw [hread]
      exact .failed failure
    · cases hc : checkSettlement id (remittance.settlementOf intent.grossAmount) with
      | error e =>
        rw [run_settlingRead_of_misfit now remittance recipient hp hf hc]
        exact .failed _
      | ok _ =>
        rw [run_settlingRead_of_open hs now remittance recipient h hp hf hc]
        exact .settled h hp hf hc

/-! ## Refunding -/

omit remittance recipient

/-- Refunding an unpaid intent is refused. -/
theorem refundingRead_of_unpaid (hp : intent.paid = false) :
    refundingRead id now intent = .fail (.plain .notPaid [("id", .int id)]) := by
  rw [refundingRead, hp]
  rfl

/-- Refunding a refunded intent shows it. -/
theorem refundingRead_of_refunded (hp : intent.paid = true) (hr : intent.refunded = true) :
    refundingRead id now intent = showing intent now := by
  rw [refundingRead, hp, hr]
  rfl

/-- Refunding a paid intent goes on to its update. -/
theorem refundingRead_of_unrefunded (hp : intent.paid = true) (hr : intent.refunded = false) :
    refundingRead id now intent
      = .refund id fun _ => load id fun intent => showing intent now := by
  rw [refundingRead, hp, hr]
  rfl

include hs in
/-- Refunding a paid intent records the refund and shows the intent with it. -/
theorem run_refundingRead_of_unrefunded (h : store.lookup id = some intent)
    (hp : intent.paid = true) (hr : intent.refunded = false) :
    (refundingRead id now intent).run store
      = (.ok (.view (.ofIntent intent.withRefund now)), store.amend id Intent.withRefund) := by
  have hs' := (Store.Effect.refund h hp hr).sound hs
  rw [refundingRead_of_unrefunded now hp hr, Call.run, hs.refund_of_unrefunded h hp hr]
  dsimp only
  rw [run_load_of_found hs' (Store.lookup_withRefund h)]
  rfl

/-- What the call that refunds an intent comes to. -/
inductive Refunds (store : Store) (id now : Int) : Except Failure Outcome × Store → Prop where
  /-- The intent is not there, or has not been paid. -/
  | failed (failure : Failure) : Refunds store id now (.error failure, store)
  | replayed {intent : Intent} (h : store.lookup id = some intent) (hp : intent.paid = true)
      (hr : intent.refunded = true) :
      Refunds store id now (.ok (.view (.ofIntent intent now)), store)
  | refunded {intent : Intent} (h : store.lookup id = some intent) (hp : intent.paid = true)
      (hr : intent.refunded = false) :
      Refunds store id now
        (.ok (.view (.ofIntent intent.withRefund now)), store.amend id Intent.withRefund)

include hs in
theorem refunds_load (id : Int) :
    Refunds store id now ((load id (refundingRead id now)).run store) := by
  cases h : store.lookup id with
  | none =>
    obtain ⟨failure, hf⟩ := run_load_of_missing h (refundingRead id now)
    rw [hf]
    exact .failed failure
  | some intent =>
    rw [run_load_of_found hs h]
    cases hp : intent.paid with
    | false =>
      rw [refundingRead_of_unpaid now hp]
      exact .failed _
    | true =>
      cases hr : intent.refunded with
      | true =>
        rw [refundingRead_of_refunded now hp hr]
        exact .replayed h hp hr
      | false =>
        rw [run_refundingRead_of_unrefunded hs now h hp hr]
        exact .refunded h hp hr

end Operation

end IntentGateway
