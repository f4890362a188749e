import IntentGateway.Settings.Basic
import IntentGateway.Watcher

/-! # The service

A service is a gateway, with a watcher beside it if the settings enable one. The service ends when
the poll under way has ended.
-/

namespace IntentGateway.Service

/-- How often the client of a watcher repeats an attempt. -/
def chainRetries : Int := 3

/-- The gateway that a service begins with. -/
def gateway (settings : Settings) (clock : Rat) : Gateway :=
  .fresh settings.policy clock

/-- The watcher that a service begins with, if it is enabled. -/
def watcher? {σ : Type} (settings : Settings) (surroundings : σ) (gateway : Gateway) :
    Option (Watcher σ) :=
  if settings.watcherEnabled then
    some { nextBlock := settings.startBlock, connection := .open surroundings, gateway }
  else none

/-- Follows the chain while the surroundings meet a condition, but not beyond a number of polls. -/
def follow [Nesting] {σ τ : Type} [Seconds τ] (link : Link σ τ) (condition : σ → Bool)
    (polls : Nat) : Watcher σ → Watcher σ :=
  Watcher.runWhile condition { link, retry := .standard chainRetries } polls

end IntentGateway.Service
