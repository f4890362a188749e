import IntentGateway.Link.Basic

/-! # Repeated attempts

An action that fails in a way worth another attempt is repeated after a delay, up to a number of
repetitions. The last attempt's failure is the failure of the whole.
-/

namespace IntentGateway

/-- Whether another attempt is made after a failure. -/
def Failure.isRetryable : Failure → Bool
  | .link fault => fault.kind.isRetryable
  | .status code _ => Link.retryableStatuses.contains code
  | _ => false

/-- How often an action is repeated, and the delays in between. -/
structure Retry (τ : Type) where
  maxRetries : Int
  baseDelay : τ
  maxDelay : τ
  deriving Repr

namespace Retry

variable {σ τ α : Type} [Seconds τ]

/-- The usual repetitions: three, after half a second or more, and at most half a minute. -/
def standard (maxRetries : Int) : Retry τ where
  maxRetries := maxRetries
  baseDelay := Seconds.ofRat (1 / 2)
  maxDelay := Seconds.ofRat 30

/-- Waits before the attempt that follows an attempt. -/
def pause (retry : Retry τ) (link : Link σ τ) (attempt : Nat) : Action σ Unit := fun s =>
  match Backoff.delay attempt retry.baseDelay retry.maxDelay with
  | .error failure => (.error failure, s)
  | .ok delay =>
    let (drawn, s') := link.draw s
    link.sleep (Backoff.spread delay drawn) s'

/-- Makes an attempt, and more of them while some are left. -/
def attempts (retry : Retry τ) (link : Link σ τ) (action : Action σ α) (attempt : Nat) :
    Nat → Action σ α
  | 0, s => action s
  | left + 1, s =>
    match action s with
    | (.ok a, s') => (.ok a, s')
    | (.error failure, s') =>
      if failure.isRetryable then
        match retry.pause link attempt s' with
        | (.error failure, s'') => (.error failure, s'')
        | (.ok (), s'') => attempts retry link action (attempt + 1) left s''
      else (.error failure, s')

/-- Attempts an action as often as allowed. -/
def run (retry : Retry τ) (link : Link σ τ) (action : Action σ α) : Action σ α := fun s =>
  if retry.maxRetries < 0 then (.error .noAttempt, s)
  else retry.attempts link action 0 retry.maxRetries.toNat s

end Retry

end IntentGateway
