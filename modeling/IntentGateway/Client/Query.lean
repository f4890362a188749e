import IntentGateway.Client.Call
import IntentGateway.Remote.Chain
import IntentGateway.Remote.Intent
import IntentGateway.Rpc.Handler

/-! # Queries of a client

What a client asks a gateway or a node, and the shapes of the answers. A query whose arguments are
refused by the client itself sends nothing and uses no id.
-/

namespace IntentGateway.Client

variable {σ τ : Type} [Seconds τ] [Nesting]

/-! ## Queries to a gateway -/

/-- Registers an intent. -/
def createIntent (endpoint : Endpoint σ τ) (merchant gross token : Value) :
    Action (Connection σ) Remote.CreatedIntent := fun connection =>
  let amount : Except Failure String := do
    match gross with
    | .int n =>
      if 0 < n then gross.shown
      else .error (.plain .invalidAmount [("gross_amount", .str (← gross.shown))])
    | v => .error (.plain .invalidAmount [("gross_amount", .str (← v.shown))])
  match amount with
  | .error failure => (.error failure, connection)
  | .ok text =>
    let method := Rpc.Method.createIntent.name
    callThen endpoint method [merchant, .str text, token]
      (checked method Remote.CreatedIntent.decode) connection

/-- Calls a method whose result has a shape. -/
def ask {α : Type} (endpoint : Endpoint σ τ) (method : String) (params : List Value)
    (decode : Schema.Decoder α) : Action (Connection σ) α :=
  callThen endpoint method params (checked method decode)

/-- Gets an intent. -/
def getIntent (endpoint : Endpoint σ τ) (id : Value) : Action (Connection σ) Remote.Intent :=
  ask endpoint Rpc.Method.getIntent.name [id] Remote.Intent.decode

/-- Lists the intents of a merchant. -/
def listIntents (endpoint : Endpoint σ τ) (merchant : Value) :
    Action (Connection σ) (List Remote.Intent) :=
  ask endpoint Rpc.Method.listMerchantPayments.name [merchant]
    (Schema.listOf Remote.Intent.decode)

/-- Pays an intent without a transfer. -/
def payIntent (endpoint : Endpoint σ τ) (id payer : Value) :
    Action (Connection σ) Remote.Intent :=
  ask endpoint Rpc.Method.payInvoice.name [id, payer] Remote.Intent.decode

/-- Refunds an intent. -/
def refundIntent (endpoint : Endpoint σ τ) (id : Value) : Action (Connection σ) Remote.Intent :=
  ask endpoint Rpc.Method.refundInvoice.name [id] Remote.Intent.decode

/-- Gets the balances of an address. -/
def getBalances (endpoint : Endpoint σ τ) (address : Value) :
    Action (Connection σ) Remote.Balances :=
  ask endpoint Rpc.Method.getBalances.name [address] Remote.Balances.decode

/-! ## Queries to a node -/

/-- Gets the number of the latest block. -/
def headNumber (endpoint : Endpoint σ τ) : Action (Connection σ) Int :=
  ask endpoint "eth_blockNumber" [] (Amount.quantity [])

/-- The hexadecimal text of a block number, and its text in messages. -/
def blockNumberTexts (number : Value) : Except Failure String :=
  match number.asInteger with
  | .ok n => .ok (Numeral.hexText n)
  | .error e => .error (.conversion e)

/-- Gets a block, with its transfers if they are asked for in full. -/
def getBlock (endpoint : Endpoint σ τ) (number full : Value) :
    Action (Connection σ) Remote.Block := fun connection =>
  match blockNumberTexts number with
  | .error failure => (.error failure, connection)
  | .ok hex =>
    let method := "eth_getBlockByNumber"
    let use (result : Value) : Except Failure Remote.Block := do
      match result with
      | .null =>
        .error (.worded .malformedResponse
          ("Block " ++ (← number.shown) ++ " is not available") [])
      | v => checked method Remote.Block.decode v
    callThen endpoint method [.str hex, full] use connection

/-- Gets the receipt of a transfer. Null says that the node does not know the transfer yet. -/
def getReceipt (endpoint : Endpoint σ τ) (txHash : Value) :
    Action (Connection σ) Remote.Receipt :=
  let method := "eth_getTransactionReceipt"
  callThen endpoint method [txHash] fun
    | .null => .error (.plain .notIndexed [("tx_hash", txHash)])
    | v => checked method Remote.Receipt.decode v

/-! ## Waiting for a receipt -/

/-- Whether a failure says that a transfer is not known yet. -/
def isNotIndexed (failure : Failure) : Bool :=
  failure.reason? == some .notIndexed

/-- The delay between two polls: an interval that doubles up to eight times itself, and no longer
than the time that is left. -/
def pollDelay (interval left : τ) (attempt : Nat) : Except Failure τ := do
  let limit := Seconds.mul interval (Seconds.ofRat 8)
  .ok (Seconds.least (← Backoff.delay attempt interval limit) left)

/-- Polls until a receipt comes, something else goes wrong, or the deadline has passed. The delays
overflow when as many polls as there are delays have found nothing, and a sleep may be refused. -/
def pollReceipt (endpoint : Endpoint σ τ) (txHash : Value) (interval deadline : τ)
    (attempt : Nat) : Nat → Action (Connection σ) Remote.Receipt
  | pollsLeft, connection =>
    match getReceipt endpoint txHash connection with
    | (.ok receipt, connection') => (.ok receipt, connection')
    | (.error failure, connection') =>
      let left := Seconds.sub deadline (endpoint.link.time connection'.surroundings)
      if !isNotIndexed failure || Seconds.le left (Seconds.ofRat 0) then
        (.error failure, connection')
      else
        match pollDelay interval left attempt, pollsLeft with
        | .error overflow, _ => (.error overflow, connection')
        | .ok _, 0 => (.error .delayOverflow, connection')
        | .ok delay, more + 1 =>
          match endpoint.link.sleep delay connection'.surroundings with
          | (.error failure, surroundings) =>
            (.error failure, { connection' with surroundings })
          | (.ok (), surroundings) =>
            pollReceipt endpoint txHash interval deadline (attempt + 1) more
              { connection' with surroundings }

/-- Waits for the receipt of a transfer for a time. -/
def awaitReceipt (endpoint : Endpoint σ τ) (txHash : Value) (timeout interval : τ) :
    Action (Connection σ) Remote.Receipt := fun connection =>
  let deadline := Seconds.add (endpoint.link.time connection.surroundings) timeout
  pollReceipt endpoint txHash interval deadline 0 Backoff.attemptLimit.toNat connection

/-! ## Closing -/

/-- Closes the connection. -/
def close : Action (Connection σ) Unit := fun connection =>
  (.ok (), { connection with isClosed := true })

/-! ## Queries as data -/

/-- Anything that a client can be asked to do. -/
inductive Query (τ : Type) where
  /-- Calls a method by its name. -/
  | call (method : String) (params : List Value)
  | createIntent (merchant gross token : Value)
  | getIntent (id : Value)
  | listIntents (merchant : Value)
  | payIntent (id payer : Value)
  | refundIntent (id : Value)
  | getBalances (address : Value)
  | headNumber
  | getBlock (number full : Value)
  | getReceipt (txHash : Value)
  | awaitReceipt (txHash : Value) (timeout interval : τ)
  | close
  deriving Repr

/-- What a query gives. -/
inductive Answer where
  | raw (result : Value)
  | created (intent : Remote.CreatedIntent)
  | intent (intent : Remote.Intent)
  | intents (intents : List Remote.Intent)
  | balances (balances : Remote.Balances)
  | number (n : Int)
  | block (block : Remote.Block)
  | receipt (receipt : Remote.Receipt)
  | nothing
  deriving Repr

/-- Carries out a query. -/
def perform (endpoint : Endpoint σ τ) : Query τ → Action (Connection σ) Answer
  | .call method params => Action.map .raw (call endpoint method params)
  | .createIntent merchant gross token =>
    Action.map .created (createIntent endpoint merchant gross token)
  | .getIntent id => Action.map .intent (getIntent endpoint id)
  | .listIntents merchant => Action.map .intents (listIntents endpoint merchant)
  | .payIntent id payer => Action.map .intent (payIntent endpoint id payer)
  | .refundIntent id => Action.map .intent (refundIntent endpoint id)
  | .getBalances address => Action.map .balances (getBalances endpoint address)
  | .headNumber => Action.map .number (headNumber endpoint)
  | .getBlock number full => Action.map .block (getBlock endpoint number full)
  | .getReceipt txHash => Action.map .receipt (getReceipt endpoint txHash)
  | .awaitReceipt txHash timeout interval =>
    Action.map .receipt (awaitReceipt endpoint txHash timeout interval)
  | .close => Action.map (fun _ => .nothing) close

end IntentGateway.Client
