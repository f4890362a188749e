import IntentGateway.Json.Reader
import IntentGateway.Json.Writer
import IntentGateway.Link.Fault
import IntentGateway.Marker
import IntentGateway.Refusal.Basic
import IntentGateway.Schema.Checked
import IntentGateway.Value.Integer

/-! # Failures

Everything that can end an operation without its result, by cause. A refusal is meant for the
caller; the other causes are shapes that do not fit, values beyond a limit, and trouble below the
gateway.
-/

namespace IntentGateway

/-- Why the store does not take a statement. -/
inductive StorageError where
  /-- An integer does not fit its column of 64 bits. -/
  | outOfRange
  /-- An amount is too large to be written as text. -/
  | unwritableAmount
  /-- There is a balance of the address and asset already. -/
  | duplicate
  deriving Repr, DecidableEq

/-- The words of a storage error. -/
def StorageError.message : StorageError → String
  | .outOfRange => "Python int too large to convert to SQLite INTEGER"
  | .unwritableAmount => Numeral.Error.tooLarge.message
  | .duplicate => "an address has one balance of an asset"

/-- Why an operation has no result. -/
inductive Failure where
  | refused (refusal : Refusal)
  /-- A value does not have the shape asked for. -/
  | invalid (issues : List Schema.Issue)
  | numeral (error : Numeral.Error)
  | conversion (error : Conversion)
  | marker (error : Marker.Error)
  /-- A value has no JSON form. -/
  | unwritable (error : Json.Unwritable)
  | misuse (error : Refusal.Misuse)
  | storage (error : StorageError)
  | link (fault : Link.Fault)
  /-- An endpoint answered with a status that is no success. -/
  | status (code : Int) (message : String)
  /-- A value that can be written to where a key is looked up. -/
  | noKey (kindName : String)
  /-- A delay grew beyond the range of its numbers. -/
  | delayOverflow
  /-- Not a single attempt was allowed. -/
  | noAttempt
  /-- The connection is closed. -/
  | closed
  /-- Values are nested too deep. -/
  | tooDeep (excess : Nesting.Excess)
  /-- A setting that should be JSON text is none. -/
  | unreadableSetting
  /-- A failure of an action that nothing is known about but its name and its words. -/
  | foreign (name message : String)
  deriving Repr

namespace Failure

/-- The words of a failure. Issues have their own words each. -/
def message : Failure → RawText
  | .refused refusal => refusal.message
  | .invalid _ => ""
  | .numeral error => error.message
  | .conversion error => error.message
  | .marker error => error.message
  | .unwritable error => error.message
  | .misuse error => error.message
  | .storage error => error.message
  | .link fault => fault.message
  | .status _ message => message
  | .noKey kindName => "unhashable type: '" ++ kindName ++ "'"
  | .delayOverflow => "int too large to convert to float"
  | .noAttempt => "Unexpected state in retry logic"
  | .closed => "Cannot send a request, as the client has been closed."
  | .tooDeep excess => excess.message
  | .unreadableSetting => ""
  | .foreign _ message => message

/-- The reason of a refusal; other failures have none. -/
def reason? : Failure → Option Reason
  | .refused refusal => some refusal.reason
  | _ => none

/-- Whether a failure is a refusal for a reason or one under it. -/
def isRefusalUnder (failure : Failure) (above : Reason) : Bool :=
  failure.reason?.any (·.isUnder above)

/-- A refusal in the reason's own words. -/
def plain (reason : Reason) (details : Value.Entries) : Failure :=
  .refused (Refusal.plain reason details)

/-- A refusal in other words. -/
def worded (reason : Reason) (message : RawText) (details : Value.Entries) : Failure :=
  .refused (Refusal.ofReason reason message details)

/-- Two steps that succeed one after the other have each succeeded. -/
theorem bind_eq_ok {α β : Type} {first : Except Failure α} {next : α → Except Failure β} {b : β}
    (h : (first >>= next) = .ok b) : ∃ a, first = .ok a ∧ next a = .ok b := by
  cases first with
  | error failure => cases h
  | ok a => exact ⟨a, rfl, h⟩

theorem map_eq_ok {α β : Type} {f : α → β} {result : Except Failure α} {b : β}
    (h : result.map f = .ok b) : ∃ a, result = .ok a ∧ f a = b := by
  cases result with
  | error failure => cases h
  | ok a =>
    cases h
    exact ⟨a, rfl, rfl⟩

theorem map_eq_error {α β : Type} {f : α → β} {result : Except Failure α} {failure : Failure}
    (h : result.map f = .error failure) : result = .error failure := by
  cases result with
  | error _ =>
    cases h
    rfl
  | ok a => cases h

/-- Whether a result, if it is a failure, is one with a property. -/
def Only {α : Type} (Q : Failure → Prop) (result : Except Failure α) : Prop :=
  ∀ failure, result = .error failure → Q failure

section Only

variable {α β : Type} {Q : Failure → Prop}

theorem only_ok (a : α) : Only Q (.ok a : Except Failure α) := by
  rintro failure ⟨⟩

theorem only_error {failure : Failure} :
    Only Q (.error failure : Except Failure α) ↔ Q failure := by
  simp [Only]

/-- What two steps fail with is what one of them fails with. -/
theorem only_bind {first : Except Failure α} {next : α → Except Failure β} :
    Only Q (first >>= next) ↔ Only Q first ∧ ∀ a, first = .ok a → Only Q (next a) := by
  cases first with
  | error failure =>
    rw [and_iff_left fun a h => nomatch h]
    exact only_error.trans only_error.symm
  | ok a => simp [bind, Except.bind, only_ok]

theorem only_map {f : α → β} {result : Except Failure α} :
    Only Q (result.map f) ↔ Only Q result := by
  cases result with
  | ok a => exact iff_of_true (only_ok _) (only_ok a)
  | error failure => exact only_error.trans only_error.symm

theorem exists_of_not_only {result : Except Failure α} (h : ¬ Only Q result) :
    ∃ failure, result = .error failure ∧ ¬ Q failure := by
  cases result with
  | ok a => exact absurd (only_ok a) h
  | error failure => exact ⟨failure, rfl, fun hq => h (only_error.mpr hq)⟩

end Only

end Failure

/-- The failure to show a value. -/
def Failure.ofUnshowable : Value.Unshowable → Failure
  | .tooLarge => .numeral .tooLarge
  | .tooDeep => .tooDeep .showing

/-- The failure to write a value. -/
def Failure.ofUnwritable : Json.Unwritable → Failure
  | .tooDeep => .tooDeep .writing
  | error => .unwritable error

/-- A value as shown in messages and details. -/
def Value.shown [Nesting] (v : Value) : Except Failure String :=
  v.quoted.mapError .ofUnshowable

/-- An integer can be shown if it has few enough digits. -/
theorem Value.shown_int [Nesting] (n : Int) :
    (Value.int n).shown =
      if Numeral.fits n then .ok (Numeral.decimalText n) else .error (.numeral .tooLarge) := by
  obtain ⟨room, hroom⟩ : ∃ room, Nesting.shown = room + 1 :=
    Nat.exists_eq_succ_of_ne_zero (Nat.ne_of_gt Nesting.shown_pos)
  rw [shown, quoted, hroom, quotedWithin]
  split <;> rfl

/-- A checked value, or its issues as a failure. -/
def Schema.Checked.toExcept {α : Type} : Schema.Checked α → Except Failure α
  | .valid a => .ok a
  | .invalid issues => .error (.invalid issues)

end IntentGateway
