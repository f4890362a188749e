import IntentGateway.Numeral.Basic
import IntentGateway.Refusal.Reason

/-! # Refusals

A refusal is what a caller is told: a reason, words, a code and details. It travels as an error
object with the number of its reason.
-/

namespace IntentGateway

/-- A refusal. The status is that of the answer that an endpoint gave, if the transport failed so.
-/
structure Refusal where
  reason : Reason
  message : RawText
  code : RawText
  details : Value.Entries
  status : Option Int
  deriving Repr

namespace Refusal

/-- A refusal under the reason's own code. -/
def ofReason (reason : Reason) (message : RawText) (details : Value.Entries) : Refusal :=
  { reason, message, code := reason.code, details, status := none }

/-- A refusal in the reason's own words. -/
def plain (reason : Reason) (details : Value.Entries) : Refusal :=
  ofReason reason (.text (reason.defaultMessage?.getD "")) details

/-- A failure of the transport, with the status of the answer if there was one. -/
def transport (message : String) (status : Option Int) : Refusal :=
  { ofReason .transport message [] with status }

/-- The refusal in one line: code and words, behind the status if there is one. -/
def line (refusal : Refusal) : RawText :=
  let plainLine := refusal.code ++ .text ": " ++ refusal.message
  match refusal.status with
  | some status => .text ("[" ++ Numeral.decimalText status ++ "] ") ++ plainLine
  | none => plainLine

/-- What travels beside the number and the words of a refusal. Details are left out if there are
none. -/
def data (refusal : Refusal) : Value.Entries :=
  let named : Value.Entries :=
    [("error_code", .ofRaw refusal.code), ("kind", .str refusal.reason.kind)]
  let details : Value.Entries :=
    if refusal.details.isEmpty then [] else [("details", .map refusal.details)]
  named ++ details

/-- The error object of a refusal. -/
def toError (refusal : Refusal) : Value :=
  .map [("code", .int refusal.reason.number), ("message", .ofRaw refusal.message),
    ("data", .map refusal.data)]

/-! ## Building refusals from loose parts -/

/-- Why a refusal cannot be built from the parts given. -/
inductive Misuse where
  /-- A code was given for a reason that takes none. -/
  | codeNotTaken (reason : Reason)
  /-- A status was given for a reason that takes none. -/
  | statusNotTaken (reason : Reason)
  /-- No words were given for a reason that has none of its own. -/
  | noMessage (reason : Reason)
  deriving Repr, DecidableEq

/-- The name of the reason whose way of being built a reason shares: those with words of their own
and trouble with the transport are built in their own way, all others like the general one. -/
def builderName (reason : Reason) : String :=
  if reason.takesCode then Reason.general.name else reason.name

/-- The words of a misuse. -/
def Misuse.message : Misuse → String
  | .codeNotTaken reason =>
    builderName reason ++ ".__init__() got an unexpected keyword argument 'error_code'"
  | .statusNotTaken reason =>
    builderName reason ++ ".__init__() got an unexpected keyword argument 'status_code'"
  | .noMessage reason =>
    builderName reason ++ ".__init__() missing 1 required positional argument: 'message'"

/-- Builds a refusal; what is not given, or empty, is the reason's own. -/
def build (reason : Reason) (message : Option RawText) (code : Option RawText)
    (details : Value.Entries) (status : Option (Option Int)) : Except Misuse Refusal :=
  if code.isSome && !reason.takesCode then .error (.codeNotTaken reason)
  else if status.isSome && reason != .transport then .error (.statusNotTaken reason)
  else
    match message.or (reason.defaultMessage?.map .text) with
    | none => .error (.noMessage reason)
    | some words =>
      .ok
        { reason, details, message := words
          code := match code with
            | some given => if given.isEmpty then reason.code else given
            | none => reason.code
          status := status.getD none }

end Refusal

end IntentGateway
