import IntentGateway.Amount.Wire
import IntentGateway.Schema.Record

/-! # Blocks, transfers and receipts of the chain

What a node reports. Quantities are hexadecimal texts on the wire.
-/

namespace IntentGateway.Remote

/-- A transfer as it appears inside a block. -/
structure Transfer where
  hash : String
  sender : String
  recipient : Option String
  value : Int
  data : String
  deriving Repr, DecidableEq

/-- A block with its transfers. -/
structure Block where
  number : Int
  timestamp : Int
  hash : Option String
  transfers : List Transfer
  deriving Repr, DecidableEq

/-- The receipt of a transfer that the node has indexed. -/
structure Receipt where
  txHash : String
  blockHash : Option String
  blockNumber : Int
  txIndex : Int
  sender : String
  recipient : Option String
  gasUsed : Int
  status : Int
  deriving Repr, DecidableEq

/-- Whether the transfer took effect. -/
def Receipt.succeeded (receipt : Receipt) : Bool :=
  receipt.status == 1

open Schema

/-- Reads transfer data; null stands for none. -/
def transferData : Decoder String
  | .null => .valid "0x"
  | v => string v

/-- Reads a transfer. -/
def Transfer.decode : Decoder Transfer :=
  record "ChainTransaction" fun r =>
    Transfer.mk <$> required r "hash" string
      <*> required r ⟨"from", "from_address"⟩ string
      <*> nullable r "to" string
      <*> required r "value" (Amount.quantity [])
      <*> defaulted r "input" "0x" transferData

/-- Reads a block. -/
def Block.decode : Decoder Block :=
  record "Block" fun r =>
    Block.mk <$> required r "number" (Amount.quantity [])
      <*> required r "timestamp" (Amount.quantity [])
      <*> nullable r "hash" string
      <*> defaulted r "transactions" [] (listOf Transfer.decode)

/-- Reads a receipt. -/
def Receipt.decode : Decoder Receipt :=
  record "TransactionReceipt" fun r =>
    Receipt.mk <$> required r ⟨"transactionHash", "transaction_hash"⟩ string
      <*> nullable r ⟨"blockHash", "block_hash"⟩ string
      <*> required r ⟨"blockNumber", "block_number"⟩ (Amount.quantity [])
      <*> defaulted r ⟨"transactionIndex", "transaction_index"⟩ 0 (Amount.quantity [])
      <*> required r ⟨"from", "from_address"⟩ string
      <*> nullable r "to" string
      <*> defaulted r ⟨"gasUsed", "gas_used"⟩ 0 (Amount.quantity [])
      <*> required r "status" (Amount.quantity [])

/-- A transfer by the names of its fields. -/
def Transfer.toValue (transfer : Transfer) : Value :=
  .map [("hash", .str transfer.hash), ("from_address", .str transfer.sender),
    ("to", .ofOption .str transfer.recipient), ("value", .int transfer.value),
    ("input", .str transfer.data)]

/-- A block by the names of its fields. -/
def Block.toValue (block : Block) : Value :=
  .map [("number", .int block.number), ("timestamp", .int block.timestamp),
    ("hash", .ofOption .str block.hash),
    ("transactions", .list (block.transfers.map Transfer.toValue))]

/-- A receipt by the names of its fields. -/
def Receipt.toValue (receipt : Receipt) : Value :=
  .map [("transaction_hash", .str receipt.txHash),
    ("block_hash", .ofOption .str receipt.blockHash),
    ("block_number", .int receipt.blockNumber), ("transaction_index", .int receipt.txIndex),
    ("from_address", .str receipt.sender), ("to", .ofOption .str receipt.recipient),
    ("gas_used", .int receipt.gasUsed), ("status", .int receipt.status),
    ("succeeded", .bool receipt.succeeded)]

end IntentGateway.Remote
