import IntentGateway.Numeral.Basic
import IntentGateway.Status

/-! # Payment intents

A merchant registers the payment it expects. Its terms are fixed then. A settlement is recorded at
most once, and after it perhaps a refund.

An intent is stored as a row with a column for each part of it. The columns that tell of the payment
may be empty, each by itself: that they are filled together, and exactly in paid rows, is no matter
of their types but of the statements that write them.
-/

namespace IntentGateway

/-- What is fixed when an intent is created. -/
structure Terms where
  merchant : String
  token : String
  grossAmount : Int
  feeBps : Int
  feeAmount : Int
  netAmount : Int
  createdAt : Int
  expiry : Int
  deriving Repr, DecidableEq

/-- The columns that tell of the payment of an intent. -/
@[ext]
structure PaymentColumns where
  paid : Bool
  payer : Option String
  paidAmount : Option Int
  txHash : Option String
  blockNumber : Option Int
  paidAt : Option Int
  deriving Repr, DecidableEq

/-- The columns of an intent that has not been paid. -/
def PaymentColumns.unpaid : PaymentColumns where
  paid := false
  payer := none
  paidAmount := none
  txHash := none
  blockNumber := none
  paidAt := none

/-- How an intent was paid: by whom, how much, and when; and the transfer that did it, if it was
one. -/
structure Settlement where
  payer : String
  amount : Int
  txHash : Option String
  blockNumber : Option Int
  paidAt : Int
  deriving Repr, DecidableEq

/-- The columns that a settlement is recorded in. -/
def Settlement.columns (settlement : Settlement) : PaymentColumns where
  paid := true
  payer := some settlement.payer
  paidAmount := some settlement.amount
  txHash := settlement.txHash
  blockNumber := settlement.blockNumber
  paidAt := some settlement.paidAt

/-- A payment intent, as it is stored. -/
structure Intent extends Terms, PaymentColumns where
  id : Nat
  refunded : Bool
  deriving Repr, DecidableEq

namespace Intent

/-- A new intent. -/
def new (terms : Terms) (id : Nat) : Intent :=
  { terms, PaymentColumns.unpaid with id, refunded := false }

/-- The intent with a settlement recorded. -/
def settled (intent : Intent) (settlement : Settlement) : Intent :=
  { intent with toPaymentColumns := settlement.columns }

/-- The intent with its refund recorded. -/
def withRefund (intent : Intent) : Intent :=
  { intent with refunded := true }

/-- The status of an intent at a time. -/
def statusAt (intent : Intent) (now : Int) : Status :=
  Status.derive intent.paid intent.refunded (isExpired intent.expiry now)

/-- A flag as it is shown. -/
def flagText (flag : Bool) : String :=
  if flag then "True" else "False"

/-- An intent in one line. -/
def line (intent : Intent) : String :=
  "<PaymentIntent(id=" ++ Numeral.decimalText intent.id ++ ", gross_amount="
    ++ Numeral.decimalText intent.grossAmount ++ ", paid=" ++ flagText intent.paid
    ++ ", refunded=" ++ flagText intent.refunded ++ ")>"

end Intent

/-- The balance of one asset that an address holds. -/
structure Balance where
  address : String
  asset : String
  amount : Int
  deriving Repr, DecidableEq

/-- A balance in one line. -/
def Balance.line (balance : Balance) : String :=
  "<AccountBalance(address=" ++ balance.address ++ ", asset=" ++ balance.asset ++ ", amount="
    ++ Numeral.decimalText balance.amount ++ ")>"

end IntentGateway
