import IntentGateway.Proofs.Gateway.Errand

/-! # How operations end

An operation fails, tells something, shows the row that it is about, or makes a row: it adds an
intent, records a settlement or records a refund. Each way comes with what the operation was asked
and what it shows, so that what is shown can be compared with what is stored.
-/

namespace IntentGateway

/-- The view of an intent that an outcome gives. -/
def Outcome.intentView? : Outcome → Option View
  | .created _ shown => some shown
  | .view shown => some shown
  | _ => none

namespace Operation

/-- The time that an operation is given. -/
def time? : Operation → Option Int
  | .create _ _ _ _ _ now => now
  | .get _ now => now
  | .list _ now => now
  | .markPaid _ now => now
  | .pay _ _ now => now
  | .refund _ now => now
  | .balances _ => none

/-- The time at which an operation takes place. -/
def timeAt (operation : Operation) (clock : Int) : Int :=
  operation.time?.getD clock

variable [Nesting]

/-- What an operation comes to. -/
inductive Ends (policy : Policy) (clock : Int) (store : Store) :
    Operation → Except Failure Outcome × Store → Prop where
  | failed {operation : Operation} (failure : Failure) :
      Ends policy clock store operation (.error failure, store)
  | told {operation : Operation} (outcome : Outcome) (h : outcome.intentView? = none) :
      Ends policy clock store operation (.ok outcome, store)
  /-- The row has been read, or was settled or refunded before. -/
  | shown {operation : Operation} {row : Intent} (h : store.lookup row.id = some row) :
      Ends policy clock store operation
        (.ok (.view (.ofIntent row (operation.timeAt clock))), store)
  | created {merchant gross token feeBps lifetime : Value} {now : Option Int} {accepted : Terms}
      {row : Intent} {store' : Store}
      (h : terms policy merchant gross token feeBps lifetime (now.getD clock) = .ok accepted)
      (hi : store.insert accepted = .ok (row, store')) :
      Ends policy clock store (.create merchant gross token feeBps lifetime now)
        (.ok (.created row.id (.ofIntent row (now.getD clock))), store')
  | settled {operation : Operation} {id now : Int} {remittance : Remittance}
      {recipient : Option String} {row : Intent}
      (h : operation.errand clock = .ok (some (.settle id now remittance recipient)))
      (hl : store.lookup id = some row) (hp : row.paid = false) :
      Ends policy clock store operation
        (.ok (.view (.ofIntent (row.settled (remittance.settlementOf row.grossAmount))
          (operation.timeAt clock))),
        store.amend id (·.settled (remittance.settlementOf row.grossAmount)))
  | refunded {operation : Operation} {id now : Int} {row : Intent}
      (h : operation.errand clock = .ok (some (.refund id now)))
      (hl : store.lookup id = some row) (hp : row.paid = true) (hr : row.refunded = false) :
      Ends policy clock store operation
        (.ok (.view (.ofIntent row.withRefund (operation.timeAt clock))),
        store.amend id Intent.withRefund)

namespace Errand

/-- The time of an errand. -/
def time : Errand → Int
  | .settle _ now _ _ => now
  | .refund _ now => now

/-- An errand is run at the time of its operation. -/
theorem time_eq {operation : Operation} {clock : Int} {errand : Errand}
    (h : operation.errand clock = .ok (some errand)) : errand.time = operation.timeAt clock := by
  cases operation with
  | markPaid payment now =>
    rw [Operation.errand] at h
    split at h
    · cases h
    · obtain ⟨_, _, h⟩ := Failure.bind_eq_ok h
      obtain ⟨_, _, h⟩ := Failure.bind_eq_ok h
      obtain ⟨_, _, h⟩ := Failure.bind_eq_ok h
      cases h
      rfl
  | pay id payer now =>
    obtain ⟨_, _, h⟩ := Failure.bind_eq_ok h
    cases h
    rfl
  | refund id now =>
    cases h
    rfl
  | _ => cases h

end Errand

variable {policy : Policy} {clock : Int} {store : Store} {operation : Operation}

theorem Ends.shown_of_lookup {id now : Int} {row : Intent} (h : store.lookup id = some row)
    (hnow : now = operation.timeAt clock) :
    Ends policy clock store operation (.ok (.view (.ofIntent row now)), store) := by
  obtain rfl := hnow
  exact .shown (Store.id_of_lookup h ▸ h)

theorem ends_of_settles {id now : Int} {remittance : Remittance} {recipient : Option String}
    {result : Except Failure Outcome × Store}
    (herrand : operation.errand clock = .ok (some (.settle id now remittance recipient)))
    (h : Settles store id now remittance recipient result) :
    Ends policy clock store operation result := by
  have hnow : now = operation.timeAt clock := Errand.time_eq herrand
  cases h with
  | failed failure => exact .failed failure
  | replayed hl _ _ => exact .shown_of_lookup hl hnow
  | settled hl hp _ _ =>
    obtain rfl := hnow
    exact .settled herrand hl hp

theorem ends_of_refunds {id now : Int} {result : Except Failure Outcome × Store}
    (herrand : operation.errand clock = .ok (some (.refund id now)))
    (h : Refunds store id now result) : Ends policy clock store operation result := by
  have hnow : now = operation.timeAt clock := Errand.time_eq herrand
  cases h with
  | failed failure => exact .failed failure
  | replayed hl _ _ => exact .shown_of_lookup hl hnow
  | refunded hl hp hr =>
    obtain rfl := hnow
    exact .refunded herrand hl hp hr

/-- An operation that only reads fails, tells something, or shows the row that it is asked for. -/
theorem ends_of_reads (hs : store.Sound) (h : operation.reads = true) :
    Ends policy clock store operation ((operation.call policy clock).run store) := by
  cases operation with
  | get id now =>
    rw [call]
    cases hl : store.lookup id with
    | none =>
      obtain ⟨failure, hrun⟩ := run_load_of_missing hl fun row => showing row (now.getD clock)
      rw [hrun]
      exact .failed failure
    | some row =>
      rw [run_load_of_found hs hl]
      exact .shown_of_lookup hl rfl
  | list merchant now =>
    rw [call]
    cases Address.normalize "merchant" merchant with
    | error failure => exact .failed failure
    | ok merchant => exact .told _ rfl
  | balances address =>
    rw [call]
    cases Address.normalize "address" address with
    | error failure => exact .failed failure
    | ok address => exact .told _ rfl
  | _ => cases h

/-- Every operation ends in one of these ways. -/
theorem ends_run (policy : Policy) (clock : Int) (operation : Operation) (hs : store.Sound) :
    Ends policy clock store operation ((operation.call policy clock).run store) := by
  rcases operation.reads_or_updates_or_create with
    hreads | hupdates | ⟨merchant, gross, token, feeBps, lifetime, now, rfl⟩
  · exact ends_of_reads hs hreads
  · rw [call_of_updates hupdates]
    rcases herrand : operation.errand clock with failure | (_ | errand)
    · exact .failed failure
    · exact .told .unrelated rfl
    · cases errand with
      | settle id now remittance recipient =>
        exact ends_of_settles herrand (settles_load hs now remittance recipient id)
      | refund id now => exact ends_of_refunds herrand (refunds_load hs now id)
  · rcases run_create merchant gross token feeBps lifetime now policy clock store with
      ⟨failure, hrun⟩ | ⟨accepted, row, store', hterms, hinsert, hrun⟩
    · rw [hrun]
      exact .failed failure
    · rw [hrun]
      exact .created hterms hinsert

end Operation

end IntentGateway
