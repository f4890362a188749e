import IntentGateway.Client.Query
import IntentGateway.Gateway.Confirmation

/-! # The watcher of a chain

A watcher follows a chain from a block on. Each poll asks the node for the number of its latest
block and takes in all blocks up to that one, in order. A block counts as taken in only when all of
its transfers are; a poll that fails leaves the rest to the next poll.
-/

namespace IntentGateway

/-- A watcher between a node and a gateway, and the number of the block that is due. -/
structure Watcher (σ : Type) where
  nextBlock : Int
  connection : Connection σ
  gateway : Gateway
  deriving Repr

namespace Watcher

variable {σ τ : Type} [Seconds τ] [Nesting]

/-- Puts a query to the node. -/
def query {α : Type} (action : Action (Connection σ) α) : Action (Watcher σ) α := fun watcher =>
  let (result, connection) := action watcher.connection
  (result, { watcher with connection })

/-- Takes in a block that is due; the next one is due when it has been taken in. -/
def takeIn (block : Remote.Block) : Action (Watcher σ) Nat := fun watcher =>
  match watcher.gateway.confirmBlock block with
  | (.ok count, gateway) =>
    (.ok count, { watcher with gateway, nextBlock := watcher.nextBlock + 1 })
  | (.error failure, gateway) => (.error failure, { watcher with gateway })

/-- Fetches the block that is due and takes it in. -/
def step (node : Client.Endpoint σ τ) : Action (Watcher σ) Nat := fun watcher =>
  Action.andThen (query (Client.getBlock node (.int watcher.nextBlock) (.bool true))) takeIn watcher

/-- Takes in a number of blocks: how many of their transfers pay intents. -/
def catchUp (node : Client.Endpoint σ τ) : Nat → Action (Watcher σ) Nat
  | 0 => fun watcher => (.ok 0, watcher)
  | blocks + 1 =>
    Action.andThen (step node) fun count => Action.map (count + ·) (catchUp node blocks)

/-- The number of blocks that are due when the latest one has a number. -/
def blocksDue (watcher : Watcher σ) (head : Int) : Nat :=
  (head + 1 - watcher.nextBlock).toNat

/-- Polls once: takes in all blocks up to the latest one. -/
def poll (node : Client.Endpoint σ τ) : Action (Watcher σ) Nat :=
  Action.andThen (query (Client.headNumber node)) fun head watcher =>
    catchUp node (watcher.blocksDue head) watcher

/-- Polls a number of times, whatever becomes of each poll; the outcomes in order. -/
def run (node : Client.Endpoint σ τ) :
    Nat → Watcher σ → List (Except Failure Nat) × Watcher σ
  | 0, watcher => ([], watcher)
  | polls + 1, watcher =>
    let (outcome, watcher') := poll node watcher
    let (outcomes, watcher'') := run node polls watcher'
    (outcome :: outcomes, watcher'')

/-- Polls while the surroundings meet a condition, but not beyond a number of times. -/
def runWhile (condition : σ → Bool) (node : Client.Endpoint σ τ) : Nat → Watcher σ → Watcher σ
  | 0, watcher => watcher
  | polls + 1, watcher =>
    if condition watcher.connection.surroundings then
      runWhile condition node polls (poll node watcher).2
    else watcher

end Watcher

end IntentGateway
