import IntentGateway.Failure
import IntentGateway.Intent.Basic

/-! # The store

This is the store as SQLite keeps it. Intents stand in the order of their creation, under the ids 1,
2, 3 and so on without gaps, since a statement that fails uses no id up and no intent is removed.
Beside them there are balances that others maintain. Each statement is atomic: it takes effect as a
whole, or it fails and changes nothing. Integer columns hold 64 bits with a sign. Amounts are kept
in columns of decimal texts (`Amount.Column.text`), which may have any length that can be written;
here they stand as the integers that those texts are read as. A store on PostgreSQL, whose ids may
have gaps and whose columns of amounts have 78 digits, is not described.
-/

namespace IntentGateway

/-- Everything that is stored. -/
structure Store where
  intents : List Intent
  balances : List Balance
  deriving Repr, DecidableEq

namespace Store

/-- A store without rows. -/
def empty : Store := ⟨[], []⟩

/-- One more than the greatest integer of a column: 2^63. -/
def columnLimit : Int := 0x8000000000000000

/-- Whether an integer fits an integer column. -/
def fitsColumn (n : Int) : Bool :=
  decide (-columnLimit ≤ n) && decide (n < columnLimit)

/-- The greatest id that an intent can have. -/
def maxId : Int := columnLimit - 1

/-- Refuses amounts that cannot be written, and then integers that fit no column. -/
def checkColumns (amounts integers : List Int) : Except StorageError Unit :=
  if !amounts.all Numeral.fits then .error .unwritableAmount
  else if !integers.all fitsColumn then .error .outOfRange
  else .ok ()

/-! ## Reading -/

/-- The intent with an id, among those given. -/
def intentWith? (intents : List Intent) (id : Int) : Option Intent :=
  intents.find? fun intent => decide ((intent.id : Int) = id)

/-- The intent with an id. -/
def find (store : Store) (id : Int) : Except StorageError (Option Intent) := do
  checkColumns [] [id]
  .ok (intentWith? store.intents id)

/-- The intents of a merchant in the order of their creation. -/
def ofMerchant (store : Store) (merchant : String) : List Intent :=
  store.intents.filter fun intent => decide (intent.merchant = merchant)

/-- The balances of an address. -/
def holdings (store : Store) (address : String) : List Balance :=
  store.balances.filter fun balance => decide (balance.address = address)

/-! ## Writing -/

/-- The id of the next intent. -/
def nextId (store : Store) : Nat :=
  store.intents.length + 1

/-- Adds an intent under the next id. When that fits no column, the ids are used up. -/
def insert (store : Store) (terms : Terms) : Except StorageError (Intent × Store) := do
  checkColumns [terms.grossAmount, terms.feeAmount, terms.netAmount]
    [(store.nextId : Int), terms.createdAt, terms.expiry]
  let intent := Intent.new terms store.nextId
  .ok (intent, { store with intents := store.intents ++ [intent] })

/-- Updates the intents with an id that meet a condition; whether there was one. -/
def updateWhere (store : Store) (id : Int) (condition : Intent → Bool) (change : Intent → Intent) :
    Bool × Store :=
  let affected (intent : Intent) : Bool := decide ((intent.id : Int) = id) && condition intent
  (store.intents.any affected,
    { store with intents := store.intents.map fun i => if affected i then change i else i })

/-- Records how an intent was paid, unless it has been paid or refunded; whether it was recorded. -/
def settle (store : Store) (id : Int) (settlement : Settlement) :
    Except StorageError (Bool × Store) := do
  checkColumns [settlement.amount] ([id, settlement.paidAt] ++ settlement.blockNumber.toList)
  .ok (store.updateWhere id (fun intent => !intent.paid && !intent.refunded)
    (·.settled settlement))

/-- Records the refund of an intent that has been paid and not refunded; whether it was recorded. -/
def refund (store : Store) (id : Int) : Except StorageError (Bool × Store) := do
  checkColumns [] [id]
  .ok (store.updateWhere id (fun intent => intent.paid && !intent.refunded)
    (·.withRefund))

/-- Adds a balance, unless there is one of the same address and asset. -/
def addBalance (store : Store) (balance : Balance) : Except StorageError Store := do
  checkColumns [balance.amount] []
  if store.balances.any fun b => b.address == balance.address && b.asset == balance.asset then
    .error .duplicate
  else .ok { store with balances := store.balances ++ [balance] }

end Store

end IntentGateway
