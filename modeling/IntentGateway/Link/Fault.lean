/-! # Faults of a link

A request may end without a usable answer: the link fails in one of the ways listed here, or the
endpoint answers with a status that is no success. Only some of these ends are worth another
attempt.
-/

namespace IntentGateway.Link

/-- How a link fails. -/
inductive FaultKind where
  | connect
  | connectTimeout
  | readTimeout
  | writeTimeout
  | poolTimeout
  | remoteProtocol
  | read
  | write
  | close
  | localProtocol
  | proxy
  | unsupportedProtocol
  | decoding
  | tooManyRedirects
  | network
  | timeout
  | request
  /-- A failure of no closer description. -/
  | unspecified
  deriving Repr, DecidableEq

/-- All kinds of faults. -/
def FaultKind.all : List FaultKind :=
  [.connect, .connectTimeout, .readTimeout, .writeTimeout, .poolTimeout, .remoteProtocol, .read,
    .write, .close, .localProtocol, .proxy, .unsupportedProtocol, .decoding, .tooManyRedirects,
    .network, .timeout, .request, .unspecified]

/-- The faults after which another attempt is made: those of connecting, the timeouts, and an
endpoint that breaks off. -/
def FaultKind.isRetryable : FaultKind → Bool
  | .connect | .connectTimeout | .readTimeout | .writeTimeout | .poolTimeout
  | .remoteProtocol => true
  | _ => false

/-- A fault and its description. -/
structure Fault where
  kind : FaultKind
  message : String
  deriving Repr, DecidableEq

/-- The statuses of a gateway in front of the endpoint that is in trouble. -/
def retryableStatuses : List Int := [502, 503, 504]

/-- Whether a status is a success. -/
def isSuccess (status : Int) : Bool :=
  decide (200 ≤ status) && decide (status ≤ 299)

end IntentGateway.Link
