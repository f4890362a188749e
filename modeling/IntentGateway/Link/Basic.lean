import IntentGateway.Action
import IntentGateway.Link.Seconds

/-! # Links

A link is what a client has around it: an endpoint that answers requests, a clock, a way to wait,
and a source of numbers between zero and one. Each changes the state of the surroundings.
-/

namespace IntentGateway

/-- The answer of an endpoint. -/
structure Link.Reply where
  status : Int
  body : List UInt8
  deriving Repr

/-- How a client acts on surroundings with a state. -/
structure Link (σ τ : Type) where
  /-- Sends a request. -/
  send : Value → Action σ Link.Reply
  /-- Waits that long, unless the delay is refused. The sleep of a system counts nanoseconds in 64
  bits with a sign, so it refuses each delay of 2 ^ 63 nanoseconds, some 292 years, or more. -/
  sleep : τ → Action σ Unit
  /-- Draws a number between zero and one. -/
  draw : σ → τ × σ
  /-- Reads the clock. -/
  time : σ → τ

end IntentGateway
