import IntentGateway.Address.Basic
import IntentGateway.Fee
import IntentGateway.Gateway.Policy
import IntentGateway.Intent.View
import IntentGateway.Store.Call

/-! # Operations of the gateway

Each operation is a call on the store. A payment is settled at most once: the intent is read, the
reasons against settling it are checked, and the update that follows takes effect only if the intent
is still open. Paying a paid intent again, or refunding a refunded one, changes nothing and
succeeds.
-/

namespace IntentGateway

/-- A confirmed transfer, as it is reported to the gateway. What is not given is null or none. -/
structure Payment where
  data : Value
  payer : Value
  amount : Value
  recipient : Option Value := none
  txHash : Option String := none
  blockNumber : Option Int := none
  blockTime : Option Int := none
  deriving Repr

/-- What a gateway can be asked to do. A time that is not given is that of the clock. -/
inductive Operation where
  /-- Registers an intent. A rate or a lifetime that is null is the policy's. -/
  | create (merchant gross token feeBps lifetime : Value) (now : Option Int)
  | get (id : Int) (now : Option Int)
  /-- The intents of a merchant. -/
  | list (merchant : Value) (now : Option Int)
  /-- Settles the intent that a confirmed transfer names, if it names one. -/
  | markPaid (payment : Payment) (now : Option Int)
  /-- Settles an intent without a transfer. -/
  | pay (id : Int) (payer : Value) (now : Option Int)
  | refund (id : Int) (now : Option Int)
  /-- The balances of an address in the assets of the policy. -/
  | balances (address : Value)
  deriving Repr

/-- What an operation gives. -/
inductive Outcome where
  | created (id : Int) (view : View)
  | view (view : View)
  | views (views : List View)
  /-- The transfer names no intent. -/
  | unrelated
  | holdings (amounts : List (String × String))
  deriving Repr, DecidableEq

namespace Operation

variable [Nesting]

/-- The refusal to find an intent. -/
def notFound (id : Int) : Failure :=
  .plain .intentNotFound [("id", .int id)]

/-- Reads an intent. No id beyond the greatest one is looked up. -/
def load (id : Int) (next : Intent → Call Outcome) : Call Outcome :=
  if Store.maxId < id then .fail (notFound id)
  else
    .find id fun
      | some intent => next intent
      | none => .fail (notFound id)

/-- Ends with the view of an intent. -/
def showing (intent : Intent) (now : Int) : Call Outcome :=
  .answer (.view (.ofIntent intent now))

/-! ## Creating -/

/-- Takes an asset of the policy. -/
def checkToken (policy : Policy) (token : Value) : Except Failure String := do
  let refuse : Except Failure String := do
    .error (.worded .unknownToken ("Unsupported token " ++ (← token.shown))
      [("token", token), ("supported", .list (policy.tokens.map .str))])
  match token with
  | .str s => if policy.tokens.contains s then .ok s else refuse
  | _ => refuse

/-- Takes a positive lifetime. -/
def checkLifetime (lifetime : Value) : Except Failure Int := do
  let refuse : Except Failure Int := do
    .error (.plain .invalidLifetime [("ttl_seconds", .str (← lifetime.shown))])
  match lifetime with
  | .int n => if 0 < n then .ok n else refuse
  | _ => refuse

/-- Lifetimes are the positive integers. -/
theorem checkLifetime_eq_ok_iff {lifetime : Value} {n : Int} :
    checkLifetime lifetime = .ok n ↔ lifetime = .int n ∧ 0 < n := by
  constructor
  · intro h
    simp only [checkLifetime] at h
    split at h
    · split at h
      · rename_i hn
        cases h
        exact ⟨rfl, hn⟩
      · obtain ⟨_, _, h⟩ := Failure.bind_eq_ok h
        cases h
    · obtain ⟨_, _, h⟩ := Failure.bind_eq_ok h
      cases h
  · rintro ⟨rfl, hn⟩
    simp only [checkLifetime]
    rw [if_pos hn]

/-- A value, or the policy's if it is null. -/
def orPolicy (given policy : Value) : Value :=
  if given.isNull then policy else given

/-- The terms of a new intent. A bad rate is reported first, then a bad amount, merchant, asset and
lifetime. -/
def terms (policy : Policy) (merchant gross token feeBps lifetime : Value) (now : Int) :
    Except Failure Terms := do
  let bps ← Fee.rate (orPolicy feeBps policy.feeBps)
  let amount ← Fee.grossAmount gross
  let split := Fee.split amount bps
  let address ← Address.normalize "merchant" merchant
  let asset ← checkToken policy token
  let seconds ← checkLifetime (orPolicy lifetime policy.lifetime)
  .ok
    { merchant := address, token := asset, grossAmount := amount, feeBps := bps
      feeAmount := split.fee, netAmount := split.net, createdAt := now, expiry := now + seconds }

/-! ## Settling and refunding -/

/-- What stops an intent that is not simply paid from being settled. -/
def settleRefusal? (intent : Intent) (recipient : Option String) (confirmed : Option Int) :
    Option Failure :=
  let id : RawText × Value := ("id", .int intent.id)
  if intent.refunded then some (.plain .alreadyRefunded [id])
  else
    match recipient.filter (· != intent.merchant) with
    | some other =>
      some (.plain .merchantMismatch
        [id, ("merchant", .str intent.merchant), ("recipient", .str other)])
    | none =>
      (confirmed.filter (· < intent.grossAmount)).map fun amount =>
        let confirmedText := Numeral.decimalText amount
        let grossText := Numeral.decimalText intent.grossAmount
        .worded .insufficientAmount
          ("Confirmed amount " ++ confirmedText ++ " is less than intent amount " ++ grossText)
          [id, ("confirmed_amount", .str confirmedText), ("gross_amount", .str grossText)]

/-- A payment that is to settle an intent. Without a confirmed amount the gross amount counts as
paid. -/
structure Remittance where
  payer : String
  confirmed : Option Int := none
  txHash : Option String := none
  blockNumber : Option Int := none
  paidAt : Int
  deriving Repr

/-- The settlement that a payment is for an intent of a gross amount. -/
def Remittance.settlementOf (remittance : Remittance) (gross : Int) : Settlement :=
  { payer := remittance.payer, amount := remittance.confirmed.getD gross
    txHash := remittance.txHash, blockNumber := remittance.blockNumber
    paidAt := remittance.paidAt }

/-- Shows an intent after the attempt to settle it. If that had no effect, another call has settled
the intent in between, and perhaps one has refunded it. -/
def afterSettling (id now : Int) (effective : Bool) : Call Outcome :=
  load id fun intent =>
  if !effective && intent.refunded then .fail (.plain .alreadyRefunded [("id", .int id)])
  else showing intent now

/-- Settles an intent that has been read. -/
def settlingRead (id now : Int) (remittance : Remittance) (recipient : Option String)
    (intent : Intent) : Call Outcome :=
  if intent.paid && !intent.refunded then showing intent now
  else
    match settleRefusal? intent recipient remittance.confirmed with
    | some failure => .fail failure
    | none => .settle id (remittance.settlementOf intent.grossAmount) (afterSettling id now)

/-- Settles an intent once. -/
def settling (id now : Int) (remittance : Remittance) (recipient : Option Value) : Call Outcome :=
  .checking (recipient.mapM (Address.normalize "recipient")) fun recipient =>
  load id (settlingRead id now remittance recipient)

/-- Takes an amount that is not negative. -/
def checkConfirmed (amount : Value) : Except Failure Int := do
  let refuse : Except Failure Int := do
    .error (.worded .invalidAmount "Confirmed amount must be a non-negative integer"
      [("confirmed_amount", .str (← amount.shown))])
  match amount with
  | .int n => if 0 ≤ n then .ok n else refuse
  | _ => refuse

/-- Confirmed amounts are the integers that are not negative. -/
theorem checkConfirmed_eq_ok_iff {amount : Value} {n : Int} :
    checkConfirmed amount = .ok n ↔ amount = .int n ∧ 0 ≤ n := by
  constructor
  · intro h
    simp only [checkConfirmed] at h
    split at h
    · split at h
      · rename_i hn
        cases h
        exact ⟨rfl, hn⟩
      · obtain ⟨_, _, h⟩ := Failure.bind_eq_ok h
        cases h
    · obtain ⟨_, _, h⟩ := Failure.bind_eq_ok h
      cases h
  · rintro ⟨rfl, hn⟩
    simp only [checkConfirmed]
    rw [if_pos hn]

/-- Settles the intent that a confirmed transfer names. -/
def correlating (payment : Payment) (now : Int) : Call Outcome :=
  match Marker.ofData payment.data with
  | none => .answer .unrelated
  | some id =>
    .checking (checkConfirmed payment.amount) fun amount =>
    .checking (Address.normalize "payer" payment.payer) fun payer =>
    settling id now
      { payer, confirmed := some amount, txHash := payment.txHash
        blockNumber := payment.blockNumber, paidAt := payment.blockTime.getD now }
      payment.recipient

/-- Settles an intent without a transfer. -/
def paying (id : Int) (payer : Value) (now : Int) : Call Outcome :=
  .checking (Address.normalize "payer" payer) fun payer =>
  settling id now { payer, paidAt := now } none

/-- Refunds an intent that has been read. -/
def refundingRead (id now : Int) (intent : Intent) : Call Outcome :=
  if !intent.paid then .fail (.plain .notPaid [("id", .int id)])
  else if intent.refunded then showing intent now
  else .refund id fun _ => load id fun intent => showing intent now

/-- Refunds a paid intent once. -/
def refunding (id now : Int) : Call Outcome :=
  load id (refundingRead id now)

/-! ## The call of an operation -/

/-- The balance of an asset among balances; none reads as zero. -/
def amountOf (balances : List Balance) (asset : String) : Int :=
  ((balances.find? fun balance => balance.asset == asset).map (·.amount)).getD 0

/-- The call that an operation is, under a policy and at a time of the clock. -/
def call (policy : Policy) (clock : Int) : Operation → Call Outcome
  | .create merchant gross token feeBps lifetime now =>
    let now := now.getD clock
    .checking (terms policy merchant gross token feeBps lifetime now) fun terms =>
    .insert terms fun intent => .answer (.created intent.id (.ofIntent intent now))
  | .get id now => load id fun intent => showing intent (now.getD clock)
  | .list merchant now =>
    .checking (Address.normalize "merchant" merchant) fun merchant =>
    .ofMerchant merchant fun intents =>
    .answer (.views (intents.map fun intent => .ofIntent intent (now.getD clock)))
  | .markPaid payment now => correlating payment (now.getD clock)
  | .pay id payer now => paying id payer (now.getD clock)
  | .refund id now => refunding id (now.getD clock)
  | .balances address =>
    .checking (Address.normalize "address" address) fun address =>
    .holdings address fun balances =>
    .answer (.holdings (policy.tokens.map fun asset =>
      (asset, Numeral.hexText (amountOf balances asset))))

end Operation

/-- An outcome as it travels. -/
def Outcome.toWire : Outcome → Value
  | .created id shown => .map [("id", .int id), ("intent", shown.toWire)]
  | .view shown => shown.toWire
  | .views shown => .list (shown.map View.toWire)
  | .unrelated => .null
  | .holdings amounts =>
    .map (Value.Entries.ofPairs (amounts.map fun (asset, amount) => (asset, .str amount)))

end IntentGateway
