import IntentGateway.Value.Basic

/-! # Reasons for a refusal

Reasons form a tree: a general one, under it trouble with the transport and with the protocol, and
under the latter four families: malformed traffic, input that is not valid, requests that conflict
with the state of an intent, and things that do not exist. Each reason has a code of its own and a
family name, and a number under which it travels in an error object.
-/

namespace IntentGateway

/-- Why something is refused. -/
inductive Reason where
  | general
  | transport
  | protocol
  | malformedResponse
  | internal
  | validation
  | invalidAmount
  | invalidFeeRate
  | unknownToken
  | invalidAddress
  | invalidLifetime
  | invalidParams
  | invalidRequest
  | unreadable
  | stateConflict
  | alreadyRefunded
  | notPaid
  | insufficientAmount
  | merchantMismatch
  | notFound
  | intentNotFound
  | notIndexed
  | methodNotFound
  deriving Repr, DecidableEq

namespace Reason

/-- All reasons, each behind the one above it. -/
def all : List Reason :=
  [.general, .transport, .protocol, .malformedResponse, .internal, .validation, .invalidAmount,
    .invalidFeeRate, .unknownToken, .invalidAddress, .invalidLifetime, .invalidParams,
    .invalidRequest, .unreadable, .stateConflict, .alreadyRefunded, .notPaid, .insufficientAmount,
    .merchantMismatch, .notFound, .intentNotFound, .notIndexed, .methodNotFound]

/-- The reasons from the one below the general one down to this one, backwards. -/
def lineage : Reason → List Reason
  | .general => [.general]
  | .transport => [.transport, .general]
  | .protocol => [.protocol, .general]
  | .malformedResponse => [.malformedResponse, .protocol, .general]
  | .internal => [.internal, .protocol, .general]
  | .validation => [.validation, .protocol, .general]
  | .invalidAmount => [.invalidAmount, .validation, .protocol, .general]
  | .invalidFeeRate => [.invalidFeeRate, .validation, .protocol, .general]
  | .unknownToken => [.unknownToken, .validation, .protocol, .general]
  | .invalidAddress => [.invalidAddress, .validation, .protocol, .general]
  | .invalidLifetime => [.invalidLifetime, .validation, .protocol, .general]
  | .invalidParams => [.invalidParams, .validation, .protocol, .general]
  | .invalidRequest => [.invalidRequest, .validation, .protocol, .general]
  | .unreadable => [.unreadable, .validation, .protocol, .general]
  | .stateConflict => [.stateConflict, .protocol, .general]
  | .alreadyRefunded => [.alreadyRefunded, .stateConflict, .protocol, .general]
  | .notPaid => [.notPaid, .stateConflict, .protocol, .general]
  | .insufficientAmount => [.insufficientAmount, .stateConflict, .protocol, .general]
  | .merchantMismatch => [.merchantMismatch, .stateConflict, .protocol, .general]
  | .notFound => [.notFound, .protocol, .general]
  | .intentNotFound => [.intentNotFound, .notFound, .protocol, .general]
  | .notIndexed => [.notIndexed, .notFound, .protocol, .general]
  | .methodNotFound => [.methodNotFound, .notFound, .protocol, .general]

/-- The name of a reason. -/
def name : Reason → String
  | .general => "GatewayError"
  | .transport => "TransportError"
  | .protocol => "ProtocolError"
  | .malformedResponse => "MalformedResponse"
  | .internal => "InternalError"
  | .validation => "ValidationError"
  | .invalidAmount => "InvalidAmount"
  | .invalidFeeRate => "InvalidFeeRate"
  | .unknownToken => "UnknownToken"
  | .invalidAddress => "InvalidAddress"
  | .invalidLifetime => "InvalidTTL"
  | .invalidParams => "InvalidParams"
  | .invalidRequest => "InvalidRequest"
  | .unreadable => "ParseError"
  | .stateConflict => "StateConflictError"
  | .alreadyRefunded => "IntentAlreadyRefunded"
  | .notPaid => "NotPaid"
  | .insufficientAmount => "InsufficientAmount"
  | .merchantMismatch => "MerchantMismatch"
  | .notFound => "NotFoundError"
  | .intentNotFound => "IntentNotFound"
  | .notIndexed => "TransactionNotIndexed"
  | .methodNotFound => "MethodNotFound"

/-- Whether one reason is another one or stands under it. -/
def isUnder (reason above : Reason) : Bool :=
  reason.lineage.contains above

/-- The code of a reason. -/
def code : Reason → String
  | .general => "ERROR"
  | .transport => "TRANSPORT_ERROR"
  | .protocol => "PROTOCOL_ERROR"
  | .malformedResponse => "MALFORMED_RESPONSE"
  | .internal => "INTERNAL_ERROR"
  | .validation => "VALIDATION_ERROR"
  | .invalidAmount => "INVALID_AMOUNT"
  | .invalidFeeRate => "INVALID_FEE_RATE"
  | .unknownToken => "UNKNOWN_TOKEN"
  | .invalidAddress => "INVALID_ADDRESS"
  | .invalidLifetime => "INVALID_TTL"
  | .invalidParams => "INVALID_PARAMS"
  | .invalidRequest => "INVALID_REQUEST"
  | .unreadable => "PARSE_ERROR"
  | .stateConflict => "STATE_CONFLICT"
  | .alreadyRefunded => "INTENT_ALREADY_REFUNDED"
  | .notPaid => "NOT_PAID"
  | .insufficientAmount => "INSUFFICIENT_AMOUNT"
  | .merchantMismatch => "MERCHANT_MISMATCH"
  | .notFound => "NOT_FOUND"
  | .intentNotFound => "INTENT_NOT_FOUND"
  | .notIndexed => "TX_NOT_INDEXED"
  | .methodNotFound => "METHOD_NOT_FOUND"

/-- The name of the family of a reason. -/
def kind (reason : Reason) : String :=
  if reason.isUnder .transport then "transport"
  else if reason.isUnder .validation then "validation"
  else if reason.isUnder .stateConflict then "state_conflict"
  else if reason.isUnder .notFound then "not_found"
  else if reason.isUnder .protocol then "protocol"
  else "error"

/-- The number of a reason in an error object. -/
def number (reason : Reason) : Int :=
  match reason with
  | .unreadable => -32700
  | .invalidRequest => -32600
  | .methodNotFound => -32601
  | .invalidParams => -32602
  | _ =>
    if reason.isUnder .validation then -32010
    else if reason.isUnder .notFound then -32020
    else if reason.isUnder .stateConflict then -32030
    else -32603

/-- The words of a reason that is given without any. The reasons that head a family have none. -/
def defaultMessage? : Reason → Option String
  | .invalidAmount => some "Amount must be a positive integer"
  | .invalidFeeRate => some "Fee rate must be between 0 and 10000 basis points"
  | .unknownToken => some "Unsupported token"
  | .invalidAddress => some "Invalid address"
  | .invalidLifetime => some "Intent lifetime must be positive"
  | .invalidParams => some "Invalid params"
  | .invalidRequest => some "Invalid request"
  | .unreadable => some "Parse error"
  | .alreadyRefunded => some "Payment intent has been refunded"
  | .notPaid => some "Only paid intents can be refunded"
  | .insufficientAmount => some "Confirmed amount is less than the intent amount"
  | .merchantMismatch => some "Transfer recipient does not match the intent merchant"
  | .intentNotFound => some "Payment intent not found"
  | .notIndexed => some "Transaction not indexed yet"
  | .methodNotFound => some "Method not found"
  | _ => none

/-- Whether a refusal for the reason may carry another code than the reason's own. Those with words
of their own and trouble with the transport may not. -/
def takesCode (reason : Reason) : Bool :=
  reason.defaultMessage?.isNone && reason != .transport

end Reason

end IntentGateway
