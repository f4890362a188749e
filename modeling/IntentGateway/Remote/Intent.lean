import IntentGateway.Amount.Wire
import IntentGateway.Intent.Basic
import IntentGateway.Schema.Record

/-! # Intents and balances as a client receives them

A client takes apart what a gateway answers. Amounts become integers, within the ranges that a
gateway keeps; everything else must have the kind it is sent with.
-/

namespace IntentGateway.Remote

/-- An intent as a client has received it. -/
structure Intent where
  id : Int
  merchant : String
  payer : Option String
  token : String
  feeBps : Int
  grossAmount : Int
  feeAmount : Int
  netAmount : Int
  createdAt : Int
  expiry : Int
  paid : Bool
  refunded : Bool
  expired : Bool
  status : Status
  txHash : Option String
  blockNumber : Option Int
  paidAt : Option Int
  deriving Repr, DecidableEq

/-- A new intent and its id. -/
structure CreatedIntent where
  id : Int
  intent : Intent
  deriving Repr, DecidableEq

/-- The balances of an address in the two assets. -/
structure Balances where
  gorr : Int
  usdcc : Int
  deriving Repr, DecidableEq

open Schema

/-- Reads an intent. -/
def Intent.decode : Decoder Intent :=
  record "PaymentIntentView" fun r =>
    Intent.mk <$> required r "id" (integerWithin [.atLeast 0])
      <*> required r "merchant" string
      <*> nullable r "payer" string
      <*> required r "token" string
      <*> required r ⟨"feeBps", "fee_bps"⟩ (integerWithin [.atLeast 0, .atMost 10000])
      <*> required r ⟨"grossAmount", "gross_amount"⟩ (Amount.decimal [.moreThan 0])
      <*> required r ⟨"feeAmount", "fee_amount"⟩ (Amount.decimal [.atLeast 0])
      <*> required r ⟨"netAmount", "net_amount"⟩ (Amount.decimal [.atLeast 0])
      <*> required r ⟨"timestamp", "created_at"⟩ integer
      <*> required r "expiry" integer
      <*> required r "paid" boolean
      <*> required r "refunded" boolean
      <*> required r "expired" boolean
      <*> required r "status" (among Status.named)
      <*> nullable r ⟨"txHash", "tx_hash"⟩ string
      <*> nullable r ⟨"blockNumber", "block_number"⟩ integer
      <*> nullable r ⟨"paidAt", "paid_at"⟩ integer

/-- Reads a new intent. -/
def CreatedIntent.decode : Decoder CreatedIntent :=
  record "CreatedPaymentIntent" fun r =>
    CreatedIntent.mk <$> required r "id" (integerWithin [.atLeast 0])
      <*> required r "intent" Intent.decode

/-- Reads balances. -/
def Balances.decode : Decoder Balances :=
  record "Balances" fun r =>
    Balances.mk <$> required r ⟨"GORR", "gorr"⟩ (Amount.quantity [.atLeast 0])
      <*> required r ⟨"USDCc", "usdcc"⟩ (Amount.quantity [.atLeast 0])

/-- An intent by the names of its fields. -/
def Intent.toValue (intent : Intent) : Value :=
  .map [("id", .int intent.id), ("merchant", .str intent.merchant),
    ("payer", .ofOption .str intent.payer), ("token", .str intent.token),
    ("fee_bps", .int intent.feeBps), ("gross_amount", .int intent.grossAmount),
    ("fee_amount", .int intent.feeAmount), ("net_amount", .int intent.netAmount),
    ("created_at", .int intent.createdAt), ("expiry", .int intent.expiry),
    ("paid", .bool intent.paid), ("refunded", .bool intent.refunded),
    ("expired", .bool intent.expired), ("status", .str intent.status.name),
    ("tx_hash", .ofOption .str intent.txHash),
    ("block_number", .ofOption .int intent.blockNumber),
    ("paid_at", .ofOption .int intent.paidAt)]

/-- A new intent by the names of its fields. -/
def CreatedIntent.toValue (created : CreatedIntent) : Value :=
  .map [("id", .int created.id), ("intent", created.intent.toValue)]

/-- Balances by the names of their fields. -/
def Balances.toValue (balances : Balances) : Value :=
  .map [("gorr", .int balances.gorr), ("usdcc", .int balances.usdcc)]

end IntentGateway.Remote
