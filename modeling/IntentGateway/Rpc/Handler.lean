import IntentGateway.Amount.Wire
import IntentGateway.Gateway.Basic
import IntentGateway.Json.Reader
import IntentGateway.Rpc.Envelope

/-! # Serving JSON-RPC

A body gets a response: a result, or an error that says what is wrong with the body, the request,
the parameters, or the operation itself. Only to a body that is nested too deep there is none.
-/

namespace IntentGateway.Rpc

variable [Nesting]

/-! ## Parameters -/

/-- Takes a parameter that is a non-negative integer. A number without a fraction counts as one. -/
def intParam (name : String) (given : Value) : Except Failure Int := do
  let v : Value := match given with
    | .float x => (x.toInt?.map Value.int).getD given
    | _ => given
  let refuse : Except Failure Int := do
    .error (.worded .invalidParams (name ++ " must be a non-negative integer")
      [(name, .str (← v.shown))])
  match v with
  | .int n => if 0 ≤ n then .ok n else refuse
  | _ => refuse

/-- Takes a parameter that is a string. -/
def stringParam (name : String) (given : Value) : Except Failure RawText :=
  match given.raw? with
  | some raw => .ok raw
  | none => do
    .error (.worded .invalidParams (name ++ " must be a string") [(name, .str (← given.shown))])

/-! ## Methods -/

/-- The methods that a gateway serves. -/
inductive Method where
  | createIntent
  | getIntent
  | listMerchantPayments
  | payInvoice
  | refundInvoice
  | getBalances
  deriving Repr, DecidableEq

namespace Method

/-- All methods. -/
def all : List Method :=
  [.createIntent, .getIntent, .listMerchantPayments, .payInvoice, .refundInvoice, .getBalances]

/-- The name of a method on the wire. -/
def name : Method → String
  | .createIntent => "gorr_createPaymentIntent"
  | .getIntent => "gorr_getPaymentIntent"
  | .listMerchantPayments => "gorr_listMerchantPayments"
  | .payInvoice => "gorr_payInvoice"
  | .refundInvoice => "gorr_refundInvoice"
  | .getBalances => "gorr_getBalances"

/-- The names of the parameters of a method. -/
def params : Method → List String
  | .createIntent => ["merchant", "amount", "token"]
  | .getIntent => ["id"]
  | .listMerchantPayments => ["merchant"]
  | .payInvoice => ["id", "payer"]
  | .refundInvoice => ["id"]
  | .getBalances => ["address"]

/-- The method of a name. -/
def ofName? (name : String) : Option Method :=
  all.find? fun method => method.name == name

/-- The refusal of parameters in the wrong number. -/
def wrongCount (method : Method) (given : List Value) : Failure :=
  .worded .invalidParams
    (method.name ++ " expects " ++ toString method.params.length ++ " params, got "
      ++ toString given.length)
    [("expected", .list (method.params.map .str))]

/-- The operation that a method stands for with these parameters. Of the parameters of a new intent
the amount is looked at first. -/
def operation (method : Method) (given : List Value) : Except Failure Operation :=
  match method, given with
  | .createIntent, [merchant, amount, token] => do
    let gross ← Amount.ofRequest (← stringParam "amount" amount)
    let merchant ← stringParam "merchant" merchant
    let token ← stringParam "token" token
    .ok (.create (.ofRaw merchant) (.int gross) (.ofRaw token) .null .null none)
  | .getIntent, [id] => do .ok (.get (← intParam "id" id) none)
  | .listMerchantPayments, [merchant] => do
    .ok (.list (.ofRaw (← stringParam "merchant" merchant)) none)
  | .payInvoice, [id, payer] => do
    let id ← intParam "id" id
    let payer ← stringParam "payer" payer
    .ok (.pay id (.ofRaw payer) none)
  | .refundInvoice, [id] => do .ok (.refund (← intParam "id" id) none)
  | .getBalances, [address] => do
    .ok (.balances (.ofRaw (← stringParam "address" address)))
  | _, _ => .error (method.wrongCount given)

end Method

/-! ## Handling -/

/-- The operation that a request asks for. -/
def Request.operation (request : Request) : Except Failure Operation := do
  match Method.ofName? request.method with
  | some method => method.operation request.params
  | none =>
    let shown ← (Value.str request.method).shown
    .error (.worded .methodNotFound ("Method " ++ shown ++ " not found")
      [("method", .str request.method)])

/-- The refusal that a failure is answered with. What is no refusal stays inside. -/
def answerable : Failure → Refusal
  | .refused refusal => refusal
  | _ => .ofReason .internal "Internal error" []

/-- The response to a request whose operation has ended. -/
def Request.respond (request : Request) : Except Failure Outcome → Response
  | .ok outcome => { result := outcome.toWire, error := none, id := request.id }
  | .error failure => .refusing (answerable failure) request.id

/-- What a body amounts to. -/
inductive Received where
  | request (request : Request)
  /-- The response that refuses the body. -/
  | refused (response : Response)
  deriving Repr

/-- What a body that is JSON amounts to. -/
def Received.ofValue : Value → Received
  | .list _ =>
    .refused (.refusing (.ofReason .invalidRequest "Batch requests are not supported" []) none)
  | v =>
    match Request.decode v with
    | .valid asked => .request asked
    | .invalid issues =>
      .refused (.refusing
        (.plain .invalidRequest [("errors", .list (issues.map Schema.Issue.toValue))]) (bodyId? v))

/-- What the bytes of a body amount to. -/
def receive (body : List UInt8) : Except Failure Received :=
  match Json.read body with
  | .ok v => .ok (.ofValue v)
  | .error .malformed => .ok (.refused (.refusing (.plain .unreadable []) none))
  | .error (.tooDeep container) => .error (.tooDeep (.reading container))

end IntentGateway.Rpc

namespace IntentGateway.Gateway

open Rpc

variable [Nesting]

/-- Handles a request. -/
def handle (gateway : Gateway) (request : Request) : Response × Gateway :=
  match request.operation with
  | .error failure => (request.respond (.error failure), gateway)
  | .ok operation =>
    let (outcome, gateway') := perform operation gateway
    (request.respond outcome, gateway')

/-- Handles the body of a request. -/
def handleBody (body : List UInt8) : Action Gateway Response := fun gateway =>
  match receive body with
  | .error failure => (.error failure, gateway)
  | .ok (.refused response) => (.ok response, gateway)
  | .ok (.request request) =>
    let (response, gateway') := gateway.handle request
    (.ok response, gateway')

end IntentGateway.Gateway
