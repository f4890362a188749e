import IntentGateway.Proofs.Gateway.Settlement

/-! # What operations come down to

Confirmed transfers, payments without a transfer and refunds each come down to one errand about one
intent, once their arguments have been checked. The call of the errand reads the intent first. Of
the other operations, one adds an intent and the rest only read.
-/

namespace IntentGateway.Operation

/-- What an operation that updates an intent is about, once its arguments have been checked. -/
inductive Errand where
  | settle (id now : Int) (remittance : Remittance) (recipient : Option String)
  | refund (id now : Int)

namespace Errand

/-- The id of the intent. -/
def id : Errand → Int
  | .settle id .. => id
  | .refund id _ => id

/-- What follows when the intent has been read. -/
def read : Errand → Intent → Call Outcome
  | .settle id now remittance recipient => settlingRead id now remittance recipient
  | .refund id now => refundingRead id now

/-- The call. -/
def call (errand : Errand) : Call Outcome :=
  load errand.id errand.read

end Errand

/-- Whether an operation only reads. -/
def reads : Operation → Bool
  | .get .. => true
  | .list .. => true
  | .balances .. => true
  | _ => false

/-- Whether an operation updates an intent that is there. -/
def updates : Operation → Bool
  | .markPaid .. => true
  | .pay .. => true
  | .refund .. => true
  | _ => false

/-- Every operation reads, updates an intent or creates one. -/
theorem reads_or_updates_or_create (operation : Operation) :
    operation.reads = true ∨ operation.updates = true ∨
      ∃ merchant gross token feeBps lifetime now,
        operation = .create merchant gross token feeBps lifetime now := by
  cases operation with
  | create merchant gross token feeBps lifetime now =>
    exact Or.inr (Or.inr ⟨merchant, gross, token, feeBps, lifetime, now, rfl⟩)
  | get id now => exact Or.inl rfl
  | list merchant now => exact Or.inl rfl
  | balances address => exact Or.inl rfl
  | markPaid payment now => exact Or.inr (Or.inl rfl)
  | pay id payer now => exact Or.inr (Or.inl rfl)
  | refund id now => exact Or.inr (Or.inl rfl)

variable [Nesting]

/-- What an operation that updates an intent is about, if its arguments are good and name one. -/
def errand (clock : Int) : Operation → Except Failure (Option Errand)
  | .markPaid payment now =>
    match Marker.ofData payment.data with
    | none => .ok none
    | some id => do
      let amount ← checkConfirmed payment.amount
      let payer ← Address.normalize "payer" payment.payer
      let recipient ← payment.recipient.mapM (Address.normalize "recipient")
      let now := now.getD clock
      .ok (some (.settle id now
        { payer, confirmed := some amount, txHash := payment.txHash
          blockNumber := payment.blockNumber, paidAt := payment.blockTime.getD now } recipient))
  | .pay id payer now => do
    let payer ← Address.normalize "payer" payer
    let now := now.getD clock
    .ok (some (.settle id now { payer, paidAt := now } none))
  | .refund id now => .ok (some (.refund id (now.getD clock)))
  | _ => .ok none

/-- The id of the intent that an operation is about. A new intent is about to get the next id. -/
def subject? (store : Store) : Operation → Option Int
  | .create .. => some store.nextId
  | .markPaid payment _ => (Marker.ofData payment.data).map fun id => (id : Int)
  | .pay id _ _ => some id
  | .refund id _ => some id
  | _ => none

theorem subject?_of_errand {operation : Operation} {clock : Int} {errand : Errand}
    (h : operation.errand clock = .ok (some errand)) (store : Store) :
    operation.subject? store = some errand.id := by
  cases operation with
  | markPaid payment now =>
    rw [Operation.errand] at h
    rw [subject?]
    cases hid : Marker.ofData payment.data with
    | none =>
      rw [hid] at h
      cases h
    | some id =>
      rw [hid] at h
      obtain ⟨_, _, h⟩ := Failure.bind_eq_ok h
      obtain ⟨_, _, h⟩ := Failure.bind_eq_ok h
      obtain ⟨_, _, h⟩ := Failure.bind_eq_ok h
      cases h
      rfl
  | pay id payer now =>
    obtain ⟨_, _, h⟩ := Failure.bind_eq_ok h
    cases h
    rfl
  | refund id now =>
    cases h
    rfl
  | _ => cases h

/-- The call of an operation that updates an intent is that of its errand. -/
theorem call_of_updates {operation : Operation} (h : operation.updates = true) (policy : Policy)
    (clock : Int) :
    operation.call policy clock =
      match operation.errand clock with
      | .error failure => .fail failure
      | .ok none => .answer .unrelated
      | .ok (some errand) => errand.call := by
  cases operation with
  | markPaid payment now =>
    simp only [call, errand, correlating, settling]
    cases Marker.ofData payment.data with
    | none => rfl
    | some id =>
      dsimp only
      cases checkConfirmed payment.amount with
      | error failure => rfl
      | ok amount =>
        cases Address.normalize "payer" payment.payer with
        | error failure => rfl
        | ok payer =>
          cases payment.recipient.mapM (Address.normalize "recipient") with
          | error failure => rfl
          | ok recipient => rfl
  | pay id payer now =>
    simp only [call, errand, paying, settling]
    cases Address.normalize "payer" payer with
    | error failure => rfl
    | ok payer => rfl
  | refund id now => rfl
  | _ => cases h

/-- An operation that only reads leaves the store as it is. -/
theorem run_of_reads {operation : Operation} (h : operation.reads = true) (policy : Policy)
    (clock : Int) (store : Store) : ((operation.call policy clock).run store).2 = store := by
  cases operation with
  | get id now =>
    rw [call, load]
    split
    · rfl
    · rw [Call.run, Store.find_eq]
      cases Store.fitsColumn id with
      | false => rfl
      | true =>
        rw [if_pos rfl]
        cases store.lookup id <;> rfl
  | list merchant now =>
    rw [call]
    cases Address.normalize "merchant" merchant <;> rfl
  | balances address =>
    rw [call]
    cases Address.normalize "address" address <;> rfl
  | _ => cases h

/-- Creating an intent fails and leaves the store as it is, or adds an intent with accepted terms.
-/
theorem run_create (merchant gross token feeBps lifetime : Value) (now : Option Int)
    (policy : Policy) (clock : Int) (store : Store) :
    (∃ failure, ((create merchant gross token feeBps lifetime now).call policy clock).run store
        = (.error failure, store)) ∨
      ∃ accepted intent store',
        terms policy merchant gross token feeBps lifetime (now.getD clock) = .ok accepted
          ∧ store.insert accepted = .ok (intent, store')
          ∧ ((create merchant gross token feeBps lifetime now).call policy clock).run store
            = (.ok (.created intent.id (.ofIntent intent (now.getD clock))), store') := by
  simp only [call]
  cases ht : terms policy merchant gross token feeBps lifetime (now.getD clock) with
  | error failure => exact Or.inl ⟨failure, rfl⟩
  | ok accepted =>
    simp only [Call.checking, Call.run]
    cases hi : store.insert accepted with
    | error e => exact Or.inl ⟨.storage e, rfl⟩
    | ok result => exact Or.inr ⟨accepted, result.1, result.2, rfl, hi, rfl⟩

end IntentGateway.Operation
