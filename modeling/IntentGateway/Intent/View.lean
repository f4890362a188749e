import IntentGateway.Intent.Basic
import IntentGateway.Schema.Record

/-! # Views of intents

A view is an intent as a reader sees it at a time: the stored parts, and what follows from them and
the time. Amounts are decimal texts on the wire, since they may exceed what numbers of JSON readers
hold.
-/

namespace IntentGateway

/-- An intent as it is shown to a reader. -/
structure View where
  id : Int
  merchant : String
  payer : Option String
  amount : String
  token : String
  timestamp : Int
  paid : Bool
  refunded : Bool
  feeBps : Int
  grossAmount : String
  feeAmount : String
  netAmount : String
  expiry : Int
  expired : Bool
  status : String
  txHash : Option String
  blockNumber : Option Int
  paidAt : Option Int
  deriving Repr, DecidableEq

namespace View

/-- The view of an intent at a time. -/
def ofIntent (intent : Intent) (now : Int) : View where
  id := intent.id
  merchant := intent.merchant
  payer := intent.payer
  amount := Numeral.decimalText intent.grossAmount
  token := intent.token
  timestamp := intent.createdAt
  paid := intent.paid
  refunded := intent.refunded
  feeBps := intent.feeBps
  grossAmount := Numeral.decimalText intent.grossAmount
  feeAmount := Numeral.decimalText intent.feeAmount
  netAmount := Numeral.decimalText intent.netAmount
  expiry := intent.expiry
  expired := isExpired intent.expiry now
  status := (intent.statusAt now).name
  txHash := intent.txHash
  blockNumber := intent.blockNumber
  paidAt := intent.paidAt

/-- A view as it travels. -/
def toWire (view : View) : Value :=
  .map [("id", .int view.id), ("merchant", .str view.merchant),
    ("payer", .ofOption .str view.payer), ("amount", .str view.amount),
    ("token", .str view.token), ("timestamp", .int view.timestamp), ("paid", .bool view.paid),
    ("refunded", .bool view.refunded), ("feeBps", .int view.feeBps),
    ("grossAmount", .str view.grossAmount), ("feeAmount", .str view.feeAmount),
    ("netAmount", .str view.netAmount), ("expiry", .int view.expiry),
    ("expired", .bool view.expired), ("status", .str view.status),
    ("txHash", .ofOption .str view.txHash), ("blockNumber", .ofOption .int view.blockNumber),
    ("paidAt", .ofOption .int view.paidAt)]

open Schema in
/-- Reads a view, without looking into its texts. -/
def decode : Decoder View :=
  record "PaymentIntentResponse" fun r =>
    View.mk <$> required r "id" integer
      <*> required r "merchant" string
      <*> nullable r "payer" string
      <*> required r "amount" string
      <*> required r "token" string
      <*> required r "timestamp" integer
      <*> required r "paid" boolean
      <*> required r "refunded" boolean
      <*> required r ⟨"feeBps", "fee_bps"⟩ integer
      <*> required r ⟨"grossAmount", "gross_amount"⟩ string
      <*> required r ⟨"feeAmount", "fee_amount"⟩ string
      <*> required r ⟨"netAmount", "net_amount"⟩ string
      <*> required r "expiry" integer
      <*> required r "expired" boolean
      <*> required r "status" string
      <*> nullable r ⟨"txHash", "tx_hash"⟩ string
      <*> nullable r ⟨"blockNumber", "block_number"⟩ integer
      <*> nullable r ⟨"paidAt", "paid_at"⟩ integer

end View

end IntentGateway
