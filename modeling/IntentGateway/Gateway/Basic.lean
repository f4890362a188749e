import IntentGateway.Gateway.Operation

/-! # The gateway

A gateway has a policy, a clock and a store. Operations change the store only.
-/

namespace IntentGateway

/-- A gateway. The clock shows seconds, perhaps with a fraction. -/
structure Gateway where
  policy : Policy
  clock : Rat
  store : Store
  deriving Repr

namespace Gateway

variable [Nesting]

/-- A gateway without intents. -/
def fresh (policy : Policy) (clock : Rat) : Gateway :=
  { policy, clock, store := .empty }

/-- The whole seconds of the clock, toward zero. -/
def now (gateway : Gateway) : Int :=
  gateway.clock.num.tdiv gateway.clock.den

/-- The call that an operation is at this gateway. -/
def call (gateway : Gateway) (operation : Operation) : Call Outcome :=
  operation.call gateway.policy gateway.now

/-- Runs a call to its end. -/
def run (call : Call Outcome) : Action Gateway Outcome := fun gateway =>
  let (outcome, store) := call.run gateway.store
  (outcome, { gateway with store })

/-- Performs an operation. -/
def perform (operation : Operation) : Action Gateway Outcome := fun gateway =>
  run (gateway.call operation) gateway

/-- An operation changes the store only. -/
theorem perform_snd (operation : Operation) (gateway : Gateway) :
    (perform operation gateway).2 =
      { gateway with store := ((gateway.call operation).run gateway.store).2 } :=
  rfl

/-- Begins an operation: up to its conditional update, if it comes to one. -/
def begin (gateway : Gateway) (operation : Operation) : Call Outcome × Gateway :=
  let (call, store) := (gateway.call operation).runToUpdate gateway.store
  (call, { gateway with store })

end Gateway

end IntentGateway
