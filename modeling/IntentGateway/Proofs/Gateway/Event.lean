import IntentGateway.Http
import IntentGateway.Proofs.Store.Effect
import IntentGateway.Watcher

/-! # What happens to a gateway

The life of a gateway is a list of events: operations, requests over HTTP, blocks that are
confirmed, polls of a watcher, and what happens around them. A property of stores that every
operation keeps, whatever the policy and the time, holds after every list of events.
-/

namespace IntentGateway

/-- What can happen to a gateway. -/
inductive Event : Type 1 where
  /-- The clock is set. -/
  | tick (clock : Rat)
  /-- The policy for new intents is replaced. -/
  | configure (policy : Policy)
  /-- Those who maintain the balances add one. -/
  | credit (balance : Balance)
  | perform (operation : Operation)
  | serve (request : Http.Request)
  | confirm (block : Remote.Block)
  /-- A watcher polls a node, from the block that is due and with the connection it has. -/
  | poll {σ τ : Type} [Seconds τ] (node : Client.Endpoint σ τ) (nextBlock : Int)
    (connection : Connection σ)

variable [Nesting]

/-- The gateway after an event, whatever the event's own outcome. -/
def Event.apply (gateway : Gateway) : Event → Gateway
  | .tick clock => { gateway with clock }
  | .configure policy => { gateway with policy }
  | .credit balance =>
    match gateway.store.addBalance balance with
    | .ok store => { gateway with store }
    | .error _ => gateway
  | .perform operation => (Gateway.perform operation gateway).2
  | .serve request => (gateway.serve request).2
  | .confirm block => (Gateway.confirmBlock block gateway).2
  | @Event.poll _ _ _ node nextBlock connection =>
    (Watcher.poll node { nextBlock, connection, gateway }).2.gateway

/-- The gateway after events, one after the other. -/
def Gateway.after (gateway : Gateway) (events : List Event) : Gateway :=
  events.foldl Event.apply gateway

/-! ## Requests and transfers

Whatever a request or a confirmed transfer turns out to be, it performs at most one operation. For a
request that is the one its body asks for.
-/

/-- The operation that a body asks for, if it asks for one. -/
def Rpc.operationOf? (body : List UInt8) : Option Operation :=
  match receive body with
  | .ok (.request asked) => asked.operation.toOption
  | _ => none

theorem Rpc.received_of_operationOf? {body : List UInt8} {operation : Operation}
    (h : operationOf? body = some operation) :
    ∃ asked, receive body = .ok (.request asked) ∧ asked.operation = .ok operation := by
  rw [operationOf?] at h
  rcases hreceive : receive body with failure | (asked | response) <;> rw [hreceive] at h
  · cases h
  · dsimp only at h
    cases hoperation : asked.operation <;> rw [hoperation] at h <;> cases h
    exact ⟨asked, rfl, hoperation⟩
  · cases h

/-- The operation that is performed for a request, if one is. -/
def Http.Request.operation? (request : Http.Request) : Option Operation :=
  match Http.route? request.path with
  | some .rpc =>
    if request.method = Http.Route.rpc.method then Rpc.operationOf? request.body else none
  | _ => none

/-- Only what is posted to a path of the protocol has an operation performed, and its body asks for
it. -/
theorem Http.Request.posted_of_operation? {request : Http.Request} {operation : Operation}
    (h : request.operation? = some operation) :
    (Http.route? request.path = some .rpc ∧ request.method = "POST")
      ∧ ∃ asked, Rpc.receive request.body = .ok (.request asked)
        ∧ asked.operation = .ok operation := by
  rw [operation?] at h
  rcases hroute : Http.route? request.path with _ | (_ | _) <;> rw [hroute] at h
  · cases h
  · dsimp only at h
    by_cases hmethod : request.method = Http.Route.rpc.method
    · rw [if_pos hmethod] at h
      exact ⟨⟨rfl, hmethod⟩, Rpc.received_of_operationOf? h⟩
    · rw [if_neg hmethod] at h
      cases h
  · cases h

namespace Gateway

/-- A body has the operation performed that it asks for. -/
theorem handleBody_snd (gateway : Gateway) (body : List UInt8) :
    (gateway.handleBody body).2 =
      match Rpc.operationOf? body with
      | some operation => (perform operation gateway).2
      | none => gateway := by
  rw [handleBody, Rpc.operationOf?]
  -- a body is unreadable, asks for something, or is answered at once
  rcases Rpc.receive body with failure | (asked | response)
  · rfl
  · dsimp only
    rw [handle]
    cases asked.operation with
    | error failure => rfl
    | ok operation => rfl
  · rfl

/-- A request over HTTP has the operation performed that is its own, if any. -/
theorem serve_snd (gateway : Gateway) (request : Http.Request) :
    (gateway.serve request).2 =
      match request.operation? with
      | some operation => (perform operation gateway).2
      | none => gateway := by
  have hserve : (gateway.serve request).2 = (gateway.serveFully request).2 := by
    rw [serve]
    dsimp only
    split
    · rfl
    · rfl
  rw [hserve, serveFully, Http.Request.operation?]
  rcases Http.route? request.path with _ | (_ | _)
  · dsimp only
    split
    · rfl
    · rfl
  · dsimp only
    by_cases hmethod : request.method = Http.Route.rpc.method
    · rw [if_neg (not_not.mpr hmethod), if_pos hmethod, ← handleBody_snd]
      rcases gateway.handleBody request.body with ⟨failure | response, gateway'⟩
      · rfl
      · rfl
    · rw [if_pos hmethod, if_neg hmethod]
  · dsimp only
    split
    · rfl
    · rfl

/-- A request over HTTP changes nothing, or performs the operation that its body asks for. -/
theorem serve_eq_or_asked (gateway : Gateway) (request : Http.Request) :
    (gateway.serve request).2 = gateway ∨
      ∃ (asked : Rpc.Request) (operation : Operation), asked.operation = .ok operation
        ∧ (gateway.serve request).2 = (perform operation gateway).2 := by
  rw [serve_snd]
  cases hoperation : request.operation? with
  | none => exact Or.inl rfl
  | some operation =>
    obtain ⟨_, asked, _, hasked⟩ := Http.Request.posted_of_operation? hoperation
    exact Or.inr ⟨asked, operation, hasked, rfl⟩

/-- A request over HTTP changes nothing, or performs one operation. -/
theorem serve_eq_or_perform (gateway : Gateway) (request : Http.Request) :
    (gateway.serve request).2 = gateway ∨
      ∃ operation, (gateway.serve request).2 = (perform operation gateway).2 :=
  (gateway.serve_eq_or_asked request).imp_right fun ⟨_, operation, _, hperform⟩ =>
    ⟨operation, hperform⟩

/-- A confirmed transfer changes nothing, or performs the operation that settles its intent. -/
theorem confirmTransfer_eq_or_perform (gateway : Gateway) (block : Remote.Block)
    (transfer : Remote.Transfer) :
    (confirmTransfer block transfer gateway).2 = gateway ∨
      ∃ payment, (confirmTransfer block transfer gateway).2
        = (perform (.markPaid payment none) gateway).2 := by
  rw [confirmTransfer]
  cases Payment.ofTransfer? block transfer with
  | none => exact Or.inl rfl
  | some payment =>
    right
    refine ⟨payment, ?_⟩
    dsimp only
    rcases perform (.markPaid payment none) gateway with ⟨failure | outcome, gateway'⟩
    · dsimp only
      split
      · rfl
      · rfl
    · rfl

end Gateway

/-! ## What every operation keeps -/

/-- What every operation keeps, and every new balance. -/
structure Store.Kept (P : Store → Prop) : Prop where
  run : ∀ (policy : Policy) (now : Int) (operation : Operation) (store : Store), P store →
    P ((operation.call policy now).run store).2
  credit : ∀ (store : Store) (balance : Balance) (store' : Store),
    store.addBalance balance = .ok store' → P store → P store'

namespace Store.Kept

variable {P : Store → Prop} (hP : Kept P)
include hP

theorem perform (operation : Operation) {gateway : Gateway} (h : P gateway.store) :
    P (Gateway.perform operation gateway).2.store :=
  hP.run gateway.policy gateway.now operation gateway.store h

theorem confirmTransfer (block : Remote.Block) (transfer : Remote.Transfer) {gateway : Gateway}
    (h : P gateway.store) : P (Gateway.confirmTransfer block transfer gateway).2.store := by
  rcases gateway.confirmTransfer_eq_or_perform block transfer with heq | ⟨payment, heq⟩
  · rw [heq]
    exact h
  · rw [heq]
    exact hP.perform _ h

theorem confirmTransfers (block : Remote.Block) (transfers : List Remote.Transfer)
    {gateway : Gateway} (h : P gateway.store) :
    P (Gateway.confirmTransfers block transfers gateway).2.store := by
  induction transfers generalizing gateway with
  | nil => exact h
  | cons transfer transfers ih =>
    have hp := hP.confirmTransfer block transfer h
    rw [Gateway.confirmTransfers]
    rcases hr : Gateway.confirmTransfer block transfer gateway with ⟨failure | view, gateway'⟩
    · rw [hr] at hp
      exact hp
    · rw [hr] at hp
      dsimp only
      rw [Action.map_snd]
      exact ih hp

theorem serve (request : Http.Request) {gateway : Gateway} (h : P gateway.store) :
    P (gateway.serve request).2.store := by
  rcases gateway.serve_eq_or_perform request with heq | ⟨operation, heq⟩
  · rw [heq]
    exact h
  · rw [heq]
    exact hP.perform _ h

section Watcher

variable {σ τ : Type} [Seconds τ]

theorem takeIn (block : Remote.Block) {watcher : Watcher σ} (h : P watcher.gateway.store) :
    P (Watcher.takeIn block watcher).2.gateway.store := by
  have hp := hP.confirmTransfers block block.transfers h
  rw [Watcher.takeIn, Gateway.confirmBlock]
  rcases hr : Gateway.confirmTransfers block block.transfers watcher.gateway
    with ⟨failure | count, gateway'⟩
  · rw [hr] at hp
    exact hp
  · rw [hr] at hp
    exact hp

theorem step (node : Client.Endpoint σ τ) {watcher : Watcher σ} (h : P watcher.gateway.store) :
    P (Watcher.step node watcher).2.gateway.store :=
  Action.andThen_keeps (P := fun w : Watcher σ => P w.gateway.store) h
    fun block _ h' => hP.takeIn block h'

theorem catchUp (node : Client.Endpoint σ τ) (blocks : Nat) {watcher : Watcher σ}
    (h : P watcher.gateway.store) : P (Watcher.catchUp node blocks watcher).2.gateway.store := by
  induction blocks generalizing watcher with
  | zero => exact h
  | succ blocks ih =>
    refine Action.andThen_keeps (P := fun w : Watcher σ => P w.gateway.store) (hP.step node h)
      fun count watcher' h' => ?_
    rw [Action.map_snd]
    exact ih h'

theorem poll (node : Client.Endpoint σ τ) {watcher : Watcher σ} (h : P watcher.gateway.store) :
    P (Watcher.poll node watcher).2.gateway.store :=
  Action.andThen_keeps (P := fun w : Watcher σ => P w.gateway.store) h
    fun _ _ h' => hP.catchUp node _ h'

end Watcher

/-- One event keeps what every operation keeps. -/
theorem apply (event : Event) {gateway : Gateway} (h : P gateway.store) :
    P (Event.apply gateway event).store := by
  cases event with
  | tick clock => exact h
  | configure policy => exact h
  | credit balance =>
    rw [Event.apply]
    cases hb : gateway.store.addBalance balance with
    | error e => exact h
    | ok store => exact hP.credit _ _ _ hb h
  | perform operation => exact hP.perform operation h
  | serve request => exact hP.serve request h
  | confirm block => exact hP.confirmTransfers block block.transfers h
  | poll node nextBlock connection =>
    exact hP.poll node h

/-- So does every list of events. -/
theorem after (events : List Event) {gateway : Gateway} (h : P gateway.store) :
    P (gateway.after events).store := by
  induction events generalizing gateway with
  | nil => exact h
  | cons event events ih => exact ih (hP.apply event h)

end Store.Kept

/-- What every single effect keeps is kept by operations. -/
theorem Store.kept_of_effect {P : Store → Prop}
    (hP : ∀ {before after : Store}, before.Sound → P before → Effect before after → P after) :
    Store.Kept fun store => store.Sound ∧ P store := by
  refine ⟨fun policy now operation store h => ?_, fun store balance store' hb h => ?_⟩
  · exact Call.run_keeps hP (operation.call policy now) h.1 h.2
  · have heffect : Effect store store' := .credit hb
    exact ⟨heffect.sound h.1, hP h.1 h.2 heffect⟩

/-- Whatever has happened to a gateway, its store is sound. -/
theorem Gateway.sound_after (policy : Policy) (clock : Rat) (events : List Event) :
    ((Gateway.fresh policy clock).after events).store.Sound := by
  have hkept := Store.kept_of_effect (P := fun _ => True) fun _ _ _ => trivial
  have hfresh : (Gateway.fresh policy clock).store.Sound := .empty
  exact (hkept.after events ⟨hfresh, trivial⟩).1

end IntentGateway
