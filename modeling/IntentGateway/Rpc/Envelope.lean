import IntentGateway.Failure
import IntentGateway.Schema.Record

/-! # Requests and responses of JSON-RPC

A request names a method and gives its parameters by position. A response carries the id of its
request, and a result or an error.
-/

namespace IntentGateway.Rpc

open Schema

/-- The version of the protocol. -/
def version : String := "2.0"

/-- What a response is matched to its request by. -/
inductive RequestId where
  | number (n : Int)
  | text (raw : RawText)
  deriving Repr, DecidableEq

/-- An id as a value. -/
def RequestId.toValue : RequestId → Value
  | .number n => .int n
  | .text raw => .ofRaw raw

/-- The id that a value is: an integer or a string. -/
def RequestId.ofValue? : Value → Option RequestId
  | .int n => some (.number n)
  | v => v.raw?.map .text

/-- The id of a body, whatever else is wrong with it. -/
def bodyId? (body : Value) : Option RequestId :=
  (body.field? "id").bind RequestId.ofValue?

/-! ## Requests -/

/-- A request. -/
structure Request where
  method : String
  params : List Value
  id : Option RequestId
  deriving Repr

/-- Reads an id that is given as an integer or a text. A bad one has an issue for each. -/
def strictId : Decoder RequestId := fun v =>
  match strictInteger v, strictString v with
  | .valid n, _ => .valid (.number n)
  | .invalid _, .valid s => .valid (.text s)
  | .invalid issues, .invalid more =>
    .invalid (issues.map (Issue.under (.key "int")) ++ more.map (Issue.under (.key "str")))

/-- Reads a request. -/
def Request.decode : Decoder Request :=
  record "JsonRpcRequest" fun r =>
    (fun _ => Request.mk) <$> required r "jsonrpc" (literal version)
      <*> required r "method" strictString
      <*> defaulted r "params" [] (listOf any)
      <*> nullable r "id" strictId

/-! ## Responses -/

/-- The error of a response. -/
structure ErrorObject where
  code : Int
  message : RawText
  data : Option Value.Entries
  deriving Repr

/-- A response. Its result counts only if it has no error. -/
structure Response where
  result : Value
  error : Option ErrorObject
  id : Option RequestId
  deriving Repr

/-- Reads an id that a text gives as it is, and anything else that can be an integer as that. -/
def laxId : Decoder RequestId := fun v =>
  match strictId v, integer v, string v with
  | .valid id, _, _ => .valid id
  | .invalid _, .valid n, _ => .valid (.number n)
  | .invalid _, .invalid _, .valid s => .valid (.text s)
  | .invalid _, .invalid issues, .invalid more =>
    .invalid (issues.map (Issue.under (.key "int")) ++ more.map (Issue.under (.key "str")))

/-- Reads an error object. -/
def ErrorObject.decode : Decoder ErrorObject :=
  record "JsonRpcError" fun r =>
    ErrorObject.mk <$> required r "code" integer
      <*> (RawText.text <$> required r "message" string)
      <*> nullable r "data" entries

/-- Reads a response. -/
def Response.decode : Decoder Response :=
  record "JsonRpcResponse" fun r =>
    (fun _ => Response.mk) <$> defaulted r "jsonrpc" version (literal version)
      <*> defaulted r "result" .null any
      <*> nullable r "error" ErrorObject.decode
      <*> nullable r "id" laxId

/-- An error object as it travels. -/
def ErrorObject.toPayload (error : ErrorObject) : Value :=
  let named : Value.Entries := [("code", .int error.code), ("message", .ofRaw error.message)]
  .map (named ++ (error.data.map fun data => (.text "data", Value.map data)).toList)

/-- A response as it travels: with its error if it has one, else with its result. -/
def Response.toPayload (response : Response) : Value :=
  .map [("jsonrpc", .str version), ("id", .ofOption RequestId.toValue response.id),
    match response.error with
    | some error => ("error", error.toPayload)
    | none => ("result", response.result)]

/-- The error object of a refusal. -/
def ErrorObject.ofRefusal (refusal : Refusal) : ErrorObject where
  code := refusal.reason.number
  message := refusal.message
  data := some refusal.data

/-- The response that refuses a request. -/
def Response.refusing (refusal : Refusal) (id : Option RequestId) : Response where
  result := .null
  error := some (.ofRefusal refusal)
  id := id

end IntentGateway.Rpc
