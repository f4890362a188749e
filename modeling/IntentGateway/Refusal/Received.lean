import IntentGateway.Failure

/-! # Refusals received from an endpoint

An error object names its reason by its code if the code is one of those listed here, and else by
its number. What an endpoint sends need not have the shape of an error object.
-/

namespace IntentGateway.Refusal

variable [Nesting]

/-- The reasons that a received code names. -/
def namedByCode : List Reason :=
  [.invalidAmount, .invalidFeeRate, .unknownToken, .invalidAddress, .invalidLifetime,
    .invalidParams, .invalidRequest, .unreadable, .alreadyRefunded, .notPaid, .insufficientAmount,
    .merchantMismatch, .intentNotFound, .notIndexed, .methodNotFound, .internal]

/-- The reason of a code. -/
def reasonOfCode? (code : RawText) : Option Reason :=
  namedByCode.find? fun reason => .text reason.code == code

/-- The reasons that a received number names. -/
def namedByNumber : List Reason :=
  [.unreadable, .invalidRequest, .methodNotFound, .invalidParams, .internal, .validation,
    .notFound, .stateConflict]

/-- The reason of a number of unknown kind. What can be written to cannot be looked up. -/
def reasonOfNumber (number : Value) : Except Failure Reason :=
  match number with
  | .list _ => .error (.noKey number.kindName)
  | .map _ => .error (.noKey number.kindName)
  | .buffer _ => .error (.noKey number.kindName)
  | _ => .ok ((namedByNumber.find? fun reason => number.equalsInt reason.number).getD .protocol)

/-- A member as text; a member that counts as false is replaced. -/
def textOr (default : String) (member : Option Value) : Except Failure RawText :=
  match member with
  | some v =>
    if v.isTruthy then
      v.text.mapError .ofUnshowable
    else .ok default
  | none => .ok default

/-- The code and the details that the data of an error object hold. -/
def receivedData (data : Option Value) : Except Failure (RawText × Value.Entries) :=
  match data with
  | some (.map entries) => do
    let code ← textOr "" (Value.Entries.find? entries "error_code")
    let details := match Value.Entries.find? entries "details" with
      | some (.map details) => details
      | _ => []
    .ok (code, details)
  | _ => .ok ("", [])

/-- The failure that a well-formed error object amounts to, or the one of reading it. -/
def ofEntries (error : Value.Entries) : Except Failure Failure := do
  let message ← textOr "Unknown error" (Value.Entries.find? error "message")
  let (code, details) ← receivedData (Value.Entries.find? error "data")
  match reasonOfCode? code with
  | some reason => .ok (.refused (ofReason reason message details))
  | none =>
    let reason ← reasonOfNumber ((Value.Entries.find? error "code").getD .null)
    match build reason (some message) (some code) details none with
    | .ok refusal => .ok (.refused refusal)
    | .error misuse => .ok (.misuse misuse)

/-- The failure that a received error member amounts to. -/
def received (error : Value) : Failure :=
  match error with
  | .map entries =>
    match ofEntries entries with
    | .ok failure => failure
    | .error failure => failure
  | v =>
    match v.shown with
    | .ok s => .worded .malformedResponse ("RPC error must be an object, got " ++ s) []
    | .error failure => failure

end IntentGateway.Refusal
