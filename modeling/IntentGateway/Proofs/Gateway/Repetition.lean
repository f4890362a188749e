import IntentGateway.Proofs.Gateway.Errand
import IntentGateway.Proofs.Gateway.Event
import IntentGateway.Proofs.Rpc.Stage

/-! # Requests that are served again

Settling or refunding an intent again, at the same time of the clock, gives the same and changes
nothing more. Creating an intent again creates another one, under the next id, as long as there are
ids.
-/

namespace IntentGateway

namespace Operation

variable {store : Store}

/-- Settling again shows what has been settled. -/
theorem run_settling_again (hs : store.Sound) (id now : Int) (remittance : Remittance)
    (recipient : Option String) :
    let call := load id (settlingRead id now remittance recipient)
    call.run (call.run store).2 = call.run store := by
  intro call
  have hsettles : Settles store id now remittance recipient (call.run store) :=
    settles_load hs now remittance recipient id
  generalize hrun : call.run store = result at hsettles
  cases hsettles with
  | failed failure => exact hrun
  | replayed _ _ _ => exact hrun
  | @settled intent hl hp hf hc =>
    have hs' := (Store.Effect.settle (remittance.settlementOf intent.grossAmount) hl hp).sound hs
    have hl' := Store.lookup_settled hl (remittance.settlementOf intent.grossAmount)
    have hr : intent.refunded = false := hs.refunded_of_lookup hl hp
    have hp' : (intent.settled (remittance.settlementOf intent.grossAmount)).paid = true := rfl
    have hr' : (intent.settled (remittance.settlementOf intent.grossAmount)).refunded = false := hr
    show (load id (settlingRead id now remittance recipient)).run _ = _
    rw [run_load_of_found hs' hl', settlingRead_of_paid now remittance recipient hp' hr']
    rfl

/-- Refunding again shows what has been refunded. -/
theorem run_refunding_again (hs : store.Sound) (id now : Int) :
    let call := load id (refundingRead id now)
    call.run (call.run store).2 = call.run store := by
  intro call
  have hrefunds : Refunds store id now (call.run store) := refunds_load hs now id
  generalize hrun : call.run store = result at hrefunds
  cases hrefunds with
  | failed failure => exact hrun
  | replayed _ _ _ => exact hrun
  | @refunded intent hl hp hr =>
    have hs' := (Store.Effect.refund hl hp hr).sound hs
    have hp' : intent.withRefund.paid = true := hp
    have hr' : intent.withRefund.refunded = true := rfl
    show (load id (refundingRead id now)).run _ = _
    rw [run_load_of_found hs' (Store.lookup_withRefund hl), refundingRead_of_refunded now hp' hr']
    rfl

variable [Nesting]

/-- An operation that updates an intent gives the same when it is performed again, and changes
nothing more. -/
theorem run_again {operation : Operation} (h : operation.updates = true) (policy : Policy)
    (clock : Int) (hs : store.Sound) :
    let call := operation.call policy clock
    call.run (call.run store).2 = call.run store := by
  intro call
  have hcall : call = _ := call_of_updates h policy clock
  rw [hcall]
  rcases operation.errand clock with failure | (_ | errand)
  · rfl
  · rfl
  · cases errand with
    | settle id now remittance recipient => exact run_settling_again hs id now remittance recipient
    | refund id now => exact run_refunding_again hs id now

end Operation

namespace Gateway

open Rpc

variable {gateway : Gateway}

variable [Nesting]

theorem perform_again (hs : gateway.store.Sound) {operation : Operation}
    (h : operation.updates = true) :
    perform operation (perform operation gateway).2 = perform operation gateway := by
  have hrun : (gateway.call operation).run ((gateway.call operation).run gateway.store).2
      = (gateway.call operation).run gateway.store :=
    Operation.run_again h gateway.policy gateway.now hs
  refine Prod.ext ?_ ?_
  · show ((gateway.call operation).run ((gateway.call operation).run gateway.store).2).1 = _
    rw [hrun]
    rfl
  · show { gateway with
      store := ((gateway.call operation).run ((gateway.call operation).run gateway.store).2).2 } = _
    rw [hrun]
    rfl

/-- Intents, and behind them a number of new ones with the same terms, under the ids that follow. -/
def withCopies (intents : List Intent) (terms : Terms) (count : ℕ) : List Intent :=
  intents ++ (List.range' (intents.length + 1) count).map (Intent.new terms)

omit [Nesting] in
theorem length_withCopies (intents : List Intent) (terms : Terms) (count : ℕ) :
    (withCopies intents terms count).length = intents.length + count := by
  rw [withCopies, List.length_append, List.length_map, List.length_range']

omit [Nesting] in
/-- One more copy has the next id. -/
theorem withCopies_succ (intents : List Intent) (terms : Terms) (count : ℕ) :
    withCopies intents terms (count + 1) = withCopies intents terms count
      ++ [Intent.new terms ((withCopies intents terms count).length + 1)] := by
  have hid : intents.length + 1 + 1 * count = intents.length + count + 1 := by omega
  rw [length_withCopies, withCopies, List.range'_concat, List.map_append, hid]
  exact (List.append_assoc ..).symm

/-- The gateway with other intents. -/
def withIntents (gateway : Gateway) (intents : List Intent) : Gateway :=
  { gateway with store := { gateway.store with intents } }

/-- What creating an intent comes to does not depend on the intents that are there: it fails, or
adds the next one as long as there are ids. -/
theorem perform_create_cases (gateway : Gateway) (merchant gross token feeBps lifetime : Value)
    (now : Option Int) :
    let create : Operation := .create merchant gross token feeBps lifetime now
    (∀ intents, (perform create (gateway.withIntents intents)).2 = gateway.withIntents intents)
      ∨ ∃ accepted, ∀ intents, (perform create (gateway.withIntents intents)).2 =
        gateway.withIntents (if (intents.length : Int) < Store.maxId then
          intents ++ [Intent.new accepted (intents.length + 1)] else intents) := by
  intro create
  have hperform (intents : List Intent) : (perform create (gateway.withIntents intents)).2 =
      { gateway with store :=
        ((create.call gateway.policy gateway.now).run (gateway.withIntents intents).store).2 } :=
    rfl
  cases hterms : Operation.terms gateway.policy merchant gross token feeBps lifetime
    (now.getD gateway.now) with
  | error failure =>
    -- the terms are refused, whatever intents there are
    refine Or.inl fun intents => ?_
    rw [hperform, Operation.call, hterms]
    rfl
  | ok accepted =>
    have hadded {intents : List Intent} {intent : Intent} {store : Store}
        (h : (gateway.withIntents intents).store.insert accepted = .ok (intent, store)) :
        (perform create (gateway.withIntents intents)).2 = { gateway with store } := by
      rw [hperform, Operation.call, hterms]
      show { gateway with store := (Call.run (.insert accepted _) _).2 } = _
      rw [Call.run, h]
      rfl
    have hrefused {intents : List Intent} {e : StorageError}
        (h : (gateway.withIntents intents).store.insert accepted = .error e) :
        (perform create (gateway.withIntents intents)).2 = gateway.withIntents intents := by
      rw [hperform, Operation.call, hterms]
      show { gateway with store := (Call.run (.insert accepted _) _).2 } = _
      rw [Call.run, h]
      rfl
    by_cases hfit : Store.checkTerms accepted = .ok ()
    · refine Or.inr ⟨accepted, fun intents => ?_⟩
      by_cases hid : (intents.length : Int) < Store.maxId
      · rw [hadded (Store.insert_of_fit hfit (gateway.withIntents intents).store hid), if_pos hid]
        rfl
      · -- the ids are used up, and a refused statement changes nothing
        have hused : Store.maxId ≤ (intents.length : Int) := not_lt.mp hid
        obtain ⟨e, he⟩ : ∃ e, (gateway.withIntents intents).store.insert accepted = .error e :=
          Store.insert_of_misfit _ (Or.inr hused)
        rw [hrefused he, if_neg hid]
    · refine Or.inl fun intents => ?_
      obtain ⟨e, he⟩ := Store.insert_of_misfit (gateway.withIntents intents).store (Or.inl hfit)
      exact hrefused he

/-! ## Over HTTP -/

section Served

variable {path : String} (hpath : Http.route? path = some .rpc) {body : List UInt8}
  {request : Rpc.Request} (hasks : Asks body request)
include hpath hasks

/-- Serving a request carries out the operation that it asks for. -/
theorem serve_of_operation {operation : Operation} (h : request.operation = .ok operation)
    (gateway : Gateway) :
    (gateway.serve { method := "POST", path, body }).2 = (perform operation gateway).2 := by
  rw [serve_of_asks _ hpath hasks]
  exact (handle_of_ok h gateway).2

/-- A request to update an intent is served again with the same response, and changes nothing
more. -/
theorem serve_again (hs : gateway.store.Sound)
    (hupdates : ∀ operation, request.operation = .ok operation → operation.updates = true) :
    (gateway.serve { method := "POST", path, body }).2.serve { method := "POST", path, body }
      = gateway.serve { method := "POST", path, body } := by
  simp only [serve_of_asks _ hpath hasks]
  cases hoperation : request.operation with
  | error failure =>
    simp only [(handle_of_error hoperation gateway).2]
  | ok operation =>
    have hagain := perform_again hs (hupdates operation hoperation)
    simp only [(handle_of_ok hoperation _).1, (handle_of_ok hoperation _).2, hagain]

/-- Whatever intents are there, a request to create one is refused, or served with the next one as
long as there are ids. -/
theorem serve_create_cases (gateway : Gateway)
    (hcreates : ∀ operation, request.operation = .ok operation →
      ∃ merchant gross token feeBps lifetime now,
        operation = .create merchant gross token feeBps lifetime now) :
    (∀ intents, ((gateway.withIntents intents).serve { method := "POST", path, body }).2
        = gateway.withIntents intents)
      ∨ ∃ accepted, ∀ intents,
        ((gateway.withIntents intents).serve { method := "POST", path, body }).2 =
          gateway.withIntents (if (intents.length : Int) < Store.maxId then
            intents ++ [Intent.new accepted (intents.length + 1)] else intents) := by
  simp only [serve_of_asks _ hpath hasks]
  cases hoperation : request.operation with
  | error failure =>
    exact Or.inl fun intents => (handle_of_error hoperation _).2
  | ok operation =>
    obtain ⟨merchant, gross, token, feeBps, lifetime, now, rfl⟩ := hcreates operation hoperation
    simp only [(handle_of_ok hoperation _).2]
    exact perform_create_cases gateway merchant gross token feeBps lifetime now

end Served

end Gateway

end IntentGateway
