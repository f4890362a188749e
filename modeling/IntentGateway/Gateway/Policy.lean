import IntentGateway.Value.Basic

/-! # The policy of a gateway -/

namespace IntentGateway

/-- What a gateway applies to new intents when the merchant leaves it open, and which assets it
takes. The rate and the lifetime are checked when they are applied. -/
structure Policy where
  feeBps : Value
  lifetime : Value
  tokens : List String
  deriving Repr

/-- The policy of a gateway that is not configured: 2.5 percent, a quarter of an hour, two assets.
-/
def Policy.standard : Policy :=
  { feeBps := .int 250, lifetime := .int 900, tokens := ["GORR", "USDCc"] }

end IntentGateway
