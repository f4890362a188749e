import IntentGateway.Gateway.Basic
import IntentGateway.Remote.Chain

/-! # Confirmed blocks

A confirmed transfer whose data carries a marker settles the intent that the marker names. It is
final on the chain whatever the gateway makes of it, so a transfer that the gateway refuses is
passed over.
-/

namespace IntentGateway

/-- The payment that a transfer of a block is, if it carries a marker and goes to someone. -/
def Payment.ofTransfer? (block : Remote.Block) (transfer : Remote.Transfer) : Option Payment := do
  let recipient ← transfer.recipient
  let _ ← Marker.ofData (.str transfer.data)
  some
    { data := .str transfer.data, payer := .str transfer.sender, amount := .int transfer.value
      recipient := some (.str recipient), txHash := some transfer.hash
      blockNumber := some block.number, blockTime := some block.timestamp }

/-- The view that an outcome is. -/
def Outcome.view? : Outcome → Option View
  | .view shown => some shown
  | _ => none

namespace Gateway

variable [Nesting]

/-- Takes in a transfer of a confirmed block: the view of the intent that it pays. -/
def confirmTransfer (block : Remote.Block) (transfer : Remote.Transfer) :
    Action Gateway (Option View) := fun gateway =>
  match Payment.ofTransfer? block transfer with
  | none => (.ok none, gateway)
  | some payment =>
    match perform (.markPaid payment none) gateway with
    | (.ok outcome, gateway') => (.ok outcome.view?, gateway')
    | (.error failure, gateway') =>
      if failure.isRefusalUnder .protocol then (.ok none, gateway')
      else (.error failure, gateway')

/-- Takes in transfers of a block in order: how many of them pay intents. -/
def confirmTransfers (block : Remote.Block) : List Remote.Transfer → Action Gateway Nat
  | [], gateway => (.ok 0, gateway)
  | transfer :: transfers, gateway =>
    match confirmTransfer block transfer gateway with
    | (.error failure, gateway') => (.error failure, gateway')
    | (.ok view, gateway') =>
      Action.map (view.toList.length + ·) (confirmTransfers block transfers) gateway'

/-- Takes in a confirmed block: how many of its transfers pay intents. -/
def confirmBlock (block : Remote.Block) : Action Gateway Nat :=
  confirmTransfers block block.transfers

end Gateway

end IntentGateway
