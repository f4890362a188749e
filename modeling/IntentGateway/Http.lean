import IntentGateway.Http.Target
import IntentGateway.Json.Writer
import IntentGateway.Rpc.Handler

/-! # The gateway behind HTTP

Requests are posted to one of two paths; a third path tells that the gateway is up. It is an error
of the server if there is no response to a body, or one whose payload has no JSON form.

Two things that stand in front of these routes are left out: the pages that document the interface
(`/docs`, `/redoc` and `/openapi.json`), and the answers to browsers that ask beforehand whether a
page of another origin may send a request. Neither reaches the gateway.
-/

namespace IntentGateway.Http

/-- A request for a path. -/
structure Request where
  method : String
  path : String
  body : List UInt8
  deriving Repr

/-- The request that a client makes of a method in any letter case and a target. -/
def Request.ofTarget (method target : String) (body : List UInt8) :
    Except Target.Error Request :=
  (Target.path target).map fun path =>
    { method := String.ofList (method.toList.map Char.toUpper), path, body }

/-- The content of a response. -/
inductive Content where
  | json (v : Value)
  | text (s : String)
  deriving Repr

/-- A response. -/
structure Response where
  status : Nat
  content : Content
  deriving Repr

/-- A response that explains its status. -/
def Response.explained (status : Nat) (detail : String) : Response :=
  ⟨status, .json (.map [("detail", .str detail)])⟩

/-- The response of a server in trouble. -/
def Response.serverError : Response :=
  ⟨500, .text "Internal Server Error"⟩

/-- The response with a payload. -/
def Response.ofPayload [Nesting] (payload : Value) : Response :=
  match Json.write payload with
  | .ok _ => ⟨200, .json payload⟩
  | .error _ => .serverError

/-- What is served at a path. -/
inductive Route where
  | rpc
  | health
  deriving Repr, DecidableEq

/-- What is served at a path, if anything. The pages that document the interface are left out. -/
def route? (path : String) : Option Route :=
  if path = "/" ∨ path = "/rpc" then some .rpc
  else if path = "/health" then some .health
  else none

/-- The method that a route takes. -/
def Route.method : Route → String
  | .rpc => "POST"
  | .health => "GET"

/-- Whether a path would be served with a slash at its end, or without those that it has there. -/
def differsBySlash (path : String) : Bool :=
  let chars := path.toList
  let other :=
    if chars.getLast? = some '/' then (chars.reverse.dropWhile (· == '/')).reverse
    else chars ++ ['/']
  (route? (String.ofList other)).isSome

end IntentGateway.Http

namespace IntentGateway.Gateway

open Http

variable [Nesting]

/-- Serves a request, with the content that a response to it would have. -/
def serveFully (gateway : Gateway) (request : Http.Request) : Http.Response × Gateway :=
  match route? request.path with
  | none =>
    if differsBySlash request.path then (⟨307, .text ""⟩, gateway)
    else (.explained 404 "Not Found", gateway)
  | some route =>
    if request.method ≠ route.method then (.explained 405 "Method Not Allowed", gateway)
    else
      match route with
      | .health => (⟨200, .json (.map [("status", .str "healthy")])⟩, gateway)
      | .rpc =>
        match handleBody request.body gateway with
        | (.ok response, gateway') => (.ofPayload response.toPayload, gateway')
        | (.error _, gateway') => (.serverError, gateway')

/-- Serves a request. A response to `HEAD` comes without its content. -/
def serve (gateway : Gateway) (request : Http.Request) : Http.Response × Gateway :=
  let (response, gateway') := gateway.serveFully request
  if request.method = "HEAD" then ({ response with content := .text "" }, gateway')
  else (response, gateway')

end IntentGateway.Gateway
