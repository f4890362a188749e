/-! # The status of an intent

The status is derived from two flags and the reader's clock whenever an intent is read. It is never
stored.
-/

namespace IntentGateway

/-- What an intent looks like to a reader. -/
inductive Status where
  | pending
  | paid
  | expired
  | paidExpired
  | refunded
  deriving Repr, DecidableEq

namespace Status

/-- The name of a status on the wire. -/
def name : Status → String
  | .pending => "pending"
  | .paid => "paid"
  | .expired => "expired"
  | .paidExpired => "paid_expired"
  | .refunded => "refunded"

/-- Every status with its name. -/
def named : List (String × Status) :=
  [Status.pending, .paid, .expired, .paidExpired, .refunded].map fun status => (status.name, status)

/-- The status of an intent with these flags. A refund hides everything else. -/
def derive (paid refunded expired : Bool) : Status :=
  match refunded, paid, expired with
  | true, _, _ => .refunded
  | false, true, true => .paidExpired
  | false, true, false => .paid
  | false, false, true => .expired
  | false, false, false => .pending

end Status

/-- An intent has expired once its last second has passed. -/
def isExpired (expiry now : Int) : Bool :=
  decide (expiry < now)

end IntentGateway
