import IntentGateway.Json.Reader
import IntentGateway.Link.Retry
import IntentGateway.Refusal.Received
import IntentGateway.Rpc.Envelope

/-! # Calls of a client

Each call has an id of its own, one more than the last. All attempts of a call send the same body. A
reply answers the call only if it carries that id, no error and a result; all else is a refusal, but
for a reply that is nested too deep to be read. Over a closed connection nothing is sent.
-/

namespace IntentGateway

/-- A client's side of a connection: the last id it has used, whether the connection is closed, and
the surroundings. -/
structure Connection (σ : Type) where
  lastId : Nat
  isClosed : Bool
  surroundings : σ
  deriving Repr

/-- A connection over which nothing has been sent. -/
def Connection.open {σ : Type} (surroundings : σ) : Connection σ :=
  { lastId := 0, isClosed := false, surroundings }

namespace Client

variable {σ τ : Type} [Seconds τ] [Nesting]

/-- How a client reaches its endpoint. -/
structure Endpoint (σ τ : Type) where
  link : Link σ τ
  retry : Retry τ

/-- The body of a request. -/
def requestBody (method : String) (params : List Value) (id : Nat) : Value :=
  .map [("jsonrpc", .str Rpc.version), ("method", .str method), ("params", .list params),
    ("id", .int id)]

/-- One attempt to send a body: a reply with a status of success. -/
def exchange (link : Link σ τ) (body : Value) : Action σ Link.Reply := fun s =>
  match link.send body s with
  | (.ok reply, s') =>
    if Link.isSuccess reply.status then (.ok reply, s')
    else (.error (.status reply.status ""), s')
  | (.error failure, s') => (.error failure, s')

/-- One attempt over a connection that may be closed. A body that has no JSON form is not sent. -/
def transmit (link : Link σ τ) (isClosed : Bool) (body : Value) : Action σ Link.Reply := fun s =>
  match Json.write body with
  | .error e => (.error (.ofUnwritable e), s)
  | .ok _ => if isClosed then (.error .closed, s) else exchange link body s

/-- How a failure to get a reply is told to the caller. -/
def transportFailure : Failure → Failure
  | .status code _ =>
    .refused (.transport ("RPC endpoint responded with " ++ Numeral.decimalText code) (some code))
  | .link fault => .refused (.transport ("Could not reach RPC endpoint: " ++ fault.message) none)
  | failure => failure

/-- The refusal of a reply to a method. -/
def malformed (method message : String) : Failure :=
  .worded .malformedResponse ("RPC " ++ method ++ " " ++ message) []

/-- The result that the entries of a reply hold. -/
def resultOf (method : String) (id : Nat) (payload : Value.Entries) : Except Failure Value := do
  let replyId := (payload.find? "id").getD .null
  if !replyId.equalsInt id then
    .error (malformed method ("response id " ++ (← replyId.shown)
      ++ " does not match request id " ++ toString id))
  else
    match payload.find? "error" with
    | some .null | none =>
      match payload.find? "result" with
      | some result => .ok result
      | none => .error (malformed method "response has neither result nor error")
    | some error => .error (Refusal.received error)

/-- The result that the body of a reply holds. -/
def interpret (method : String) (id : Nat) (body : List UInt8) : Except Failure Value :=
  match Json.read body with
  | .error .malformed => .error (malformed method "returned a non-JSON body")
  | .error (.tooDeep container) => .error (.tooDeep (.reading container))
  | .ok (.map payload) => resultOf method id payload
  | .ok v => .error (malformed method ("returned " ++ v.kindName ++ ", expected object"))

/-- Calls a method. -/
def call (endpoint : Endpoint σ τ) (method : String) (params : List Value) :
    Action (Connection σ) Value := fun connection =>
  let id := connection.lastId + 1
  let attempt := transmit endpoint.link connection.isClosed (requestBody method params id)
  match endpoint.retry.run endpoint.link attempt connection.surroundings with
  | (.ok reply, s) =>
    (interpret method id reply.body, { connection with lastId := id, surroundings := s })
  | (.error failure, s) =>
    (.error (transportFailure failure), { connection with lastId := id, surroundings := s })

/-- A result in the shape that a method promises. -/
def checked {α : Type} (method : String) (decode : Schema.Decoder α) (result : Value) :
    Except Failure α :=
  match decode result with
  | .valid a => .ok a
  | .invalid issues =>
    .error (.worded .malformedResponse
      ("RPC " ++ method ++ " result does not match the expected schema")
      [("errors", .list (issues.map Schema.Issue.toValue))])

/-- Calls a method and goes on with its result. -/
def callThen {α : Type} (endpoint : Endpoint σ τ) (method : String) (params : List Value)
    (use : Value → Except Failure α) : Action (Connection σ) α := fun connection =>
  match call endpoint method params connection with
  | (.ok result, connection') => (use result, connection')
  | (.error failure, connection') => (.error failure, connection')

end Client

end IntentGateway
