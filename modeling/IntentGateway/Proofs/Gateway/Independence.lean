import IntentGateway.Proofs.Gateway.Errand
import IntentGateway.Proofs.Gateway.Event
import IntentGateway.Proofs.Store.Confined

/-! # Operations on different intents

Whatever settles or refunds an intent reads no other row and writes none: every statement of its
call names the id that the operation names (`Operation.confinedTo_of_updates`). Such operations on
different intents therefore commute (`Gateway.perform_comm`), whether they succeed, are replayed or
fail, and whether there are such intents at all.
-/

namespace IntentGateway

namespace Operation

open Call (ConfinedTo)

variable {id : Int}

theorem confinedTo_fail (id : Int) (failure : Failure) :
    (Call.fail failure : Call Outcome).ConfinedTo id :=
  .done _

theorem confinedTo_showing (id : Int) (intent : Intent) (now : Int) :
    (showing intent now).ConfinedTo id :=
  .done _

/-- Reading an intent names its id; so may what follows. -/
theorem confinedTo_load {next : Intent → Call Outcome} (h : ∀ intent, (next intent).ConfinedTo id) :
    (load id next).ConfinedTo id := by
  rw [load]
  split
  · exact confinedTo_fail id _
  · refine .find fun found => ?_
    cases found with
    | none => exact confinedTo_fail id _
    | some intent => exact h intent

theorem confinedTo_settlingRead (id now : Int) (remittance : Remittance)
    (recipient : Option String) (intent : Intent) :
    (settlingRead id now remittance recipient intent).ConfinedTo id := by
  rw [settlingRead]
  split
  · exact confinedTo_showing id intent now
  · split
    · exact confinedTo_fail id _
    · refine .settle _ fun effective => confinedTo_load fun settled => ?_
      split
      · exact confinedTo_fail id _
      · exact confinedTo_showing id settled now

theorem confinedTo_refundingRead (id now : Int) (intent : Intent) :
    (refundingRead id now intent).ConfinedTo id := by
  rw [refundingRead]
  split
  · exact confinedTo_fail id _
  · split
    · exact confinedTo_showing id intent now
    · exact .refund fun _ => confinedTo_load fun refunded => confinedTo_showing id refunded now

theorem Errand.confinedTo_call (errand : Errand) : errand.call.ConfinedTo errand.id := by
  cases errand with
  | settle id now remittance recipient =>
    exact confinedTo_load fun intent => confinedTo_settlingRead id now remittance recipient intent
  | refund id now => exact confinedTo_load fun intent => confinedTo_refundingRead id now intent

variable [Nesting]

/-- An operation that updates an intent is confined to the id that it names. One that names none
reads and writes no row at all. -/
theorem confinedTo_of_updates {operation : Operation} (h : operation.updates = true)
    (policy : Policy) (clock : Int) {store : Store}
    (hid : ∀ named, operation.subject? store = some named → named = id) :
    (operation.call policy clock).ConfinedTo id := by
  rw [call_of_updates h]
  rcases herrand : operation.errand clock with failure | (_ | errand)
  · exact confinedTo_fail id failure
  · exact .done _
  · rw [← hid errand.id (subject?_of_errand herrand store)]
    exact errand.confinedTo_call

end Operation

namespace Gateway

open Operation (confinedTo_of_updates)

/-- What names no id is confined to every id, so to one that the other operation does not name. -/
theorem exists_ids_of_ne {named named' : Option Int}
    (hne : ∀ id, named = some id → named' ≠ some id) :
    ∃ id other : Int, other ≠ id ∧ (∀ n, named = some n → n = id)
      ∧ ∀ n, named' = some n → n = other := by
  rcases named with _ | id <;> rcases named' with _ | other
  · exact ⟨0, 1, by decide, nofun, nofun⟩
  · exact ⟨other + 1, other, by omega, nofun, fun _ h => (Option.some.inj h).symm⟩
  · exact ⟨id, id + 1, by omega, fun _ h => (Option.some.inj h).symm, nofun⟩
  · exact ⟨id, other, fun h => hne id rfl (congrArg some h), fun _ h => (Option.some.inj h).symm,
      fun _ h => (Option.some.inj h).symm⟩

section

variable [Nesting]

/-- Operations that settle or refund and do not name the same intent commute: each gives the same in
either order, and the gateway is the same after both. -/
theorem perform_comm (policy : Policy) (clock : Rat) (events : List Event)
    (first second : Operation) (hfirst : first.updates = true) (hsecond : second.updates = true) :
    let gateway := (Gateway.fresh policy clock).after events
    (∀ id, first.subject? gateway.store = some id → second.subject? gateway.store ≠ some id) →
      (perform second (perform first gateway).2).1 = (perform second gateway).1
        ∧ (perform first (perform second gateway).2).1 = (perform first gateway).1
        ∧ (perform second (perform first gateway).2).2
          = (perform first (perform second gateway).2).2 := by
  intro gateway hne
  obtain ⟨id, other, hdistinct, hid, hother⟩ := exists_ids_of_ne hne
  have hconfined : (gateway.call first).ConfinedTo id := confinedTo_of_updates hfirst _ _ hid
  have hconfined' : (gateway.call second).ConfinedTo other :=
    confinedTo_of_updates hsecond _ _ hother
  obtain ⟨hsame, hsame', hstore⟩ := hconfined.actsOn.comm hdistinct hconfined'.actsOn
    (sound_after policy clock events)
  exact ⟨hsame, hsame', congrArg (fun store => { gateway with store }) hstore⟩

end

/-- A payment without a transfer, and a transfer that names another intent and pays too little for
it. -/
theorem perform_comm_of_two :
    let merchant : Value := .str "0x1111111111111111111111111111111111111111"
    let payer : Value := .str "0x2222222222222222222222222222222222222222"
    let create : Event := .perform (.create merchant (.int 5) (.str "GORR") .null .null none)
    let gateway := (Gateway.fresh .standard 0).after [create, create]
    let pay : Operation := .pay 1 payer (some 7)
    let transfer : Operation := .markPaid
      { data := .str "0x474f52525f5041593a32", amount := .int 4, payer := payer } (some 8)
    (perform transfer (perform pay gateway).2).1 = (perform transfer gateway).1
      ∧ (perform pay (perform transfer gateway).2).1 = (perform pay gateway).1
      ∧ (perform transfer (perform pay gateway).2).2 = (perform pay (perform transfer gateway).2).2
      ∧ (perform pay (perform transfer gateway).2).2.store.intents.map (·.paid)
        = [true, false] := by
  intro merchant payer create gateway pay transfer
  have hsubject : transfer.subject? gateway.store = some 2 := by decide +kernel
  have hcomm := perform_comm .standard 0 [create, create] pay transfer rfl rfl
      fun id hid hsame => by
    cases hid
    rw [hsubject] at hsame
    cases hsame
  exact ⟨hcomm.1, hcomm.2.1, hcomm.2.2, by decide +kernel⟩

end Gateway

end IntentGateway
