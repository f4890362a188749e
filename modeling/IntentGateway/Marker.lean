import IntentGateway.Text.Hex
import IntentGateway.Text.Replace
import IntentGateway.Value.Text

/-! # Payment markers

A transfer pays the intent 42 when its data is the ASCII text `GORR_PAY:42`. Any other data makes it
an ordinary transfer. Data comes as bytes, or as hexadecimal text with or without `0x`.
-/

namespace IntentGateway.Marker

variable [Nesting]

/-- What the data of a paying transfer begins with. -/
def lead : List Char := "GORR_PAY:".toList

/-- The most digits that can name an intent. -/
def maxDigits : Nat := 20

/-- Why a marker or the fields of a transfer cannot be made. -/
inductive Error where
  /-- The id, as shown, is no integer. -/
  | idNotInteger (shown : String)
  /-- The id, as shown, is negative. -/
  | idNegative (shown : String)
  /-- The amount, as shown, is no positive integer. -/
  | amountNotPositive (shown : String)
  /-- A part of the message cannot be shown. -/
  | unshowable (error : Value.Unshowable)
  deriving Repr, DecidableEq

/-- The words of an error. -/
def Error.message : Error → String
  | .idNotInteger shown => "Intent id must be an integer, got " ++ shown
  | .idNegative shown => "Intent id must be non-negative, got " ++ shown
  | .amountNotPositive shown => "Amount must be a positive integer, got " ++ shown
  | .unshowable error => error.message

/-! ## Bytes of a marker -/

/-- The bytes of an ASCII text. -/
def asciiBytes (text : List Char) : List UInt8 :=
  text.map fun c => UInt8.ofNat c.toNat

/-- The marker of an intent. -/
def encode (id : Nat) : List UInt8 :=
  asciiBytes (lead ++ Nat.toDigits 10 id)

/-- The value of a byte that is an ASCII digit. -/
def digit? (byte : UInt8) : Option Nat :=
  if 48 ≤ byte.toNat ∧ byte.toNat ≤ 57 then some (byte.toNat - 48) else none

/-- The id that a marker names: one to twenty digits behind the lead, and nothing else. -/
def decode (bytes : List UInt8) : Option Nat :=
  match Text.dropStart? (asciiBytes lead) bytes with
  | none => none
  | some suffix =>
    if suffix.isEmpty || decide (maxDigits < suffix.length) then none
    else (suffix.mapM digit?).map (Numeral.ofDigits 10)

/-! ## Data of unknown kind -/

/-- The bytes of transfer data. -/
def payload? : Value → Option (List UInt8)
  | .bytes data => some data
  | .buffer data => some data
  | .str s => Text.bytesOfHex? (Text.dropHexMarker s.toList)
  | _ => none

/-- The id that transfer data names, if it carries a marker. -/
def ofData (data : Value) : Option Nat :=
  (payload? data).bind decode

/-- A value as shown in an error. -/
def shown (v : Value) : Except Error String :=
  match v.quoted with
  | .ok s => .ok s
  | .error e => .error (.unshowable e)

/-- The marker of an id of unknown kind. -/
def ofId (id : Value) : Except Error (List UInt8) :=
  match id with
  | .int n =>
    if n < 0 then
      match shown id with
      | .ok s => .error (.idNegative s)
      | .error e => .error e
    else if Numeral.fits n then .ok (encode n.toNat)
    else .error (.unshowable .tooLarge)
  | v =>
    match shown v with
    | .ok s => .error (.idNotInteger s)
    | .error e => .error e

/-- The fields of a transfer that pays an intent. Signing and sending it are left to the payer. -/
structure TransferFields where
  recipient : Value
  value : Int
  data : String
  deriving Repr

/-- The fields of a transfer of an amount to a merchant for an intent. -/
def transferFields (merchant amount id : Value) : Except Error TransferFields := do
  match amount with
  | .int n =>
    if n ≤ 0 then .error (.amountNotPositive (← shown amount))
    else
      let marker ← ofId id
      .ok
        { recipient := merchant, value := n
          data := String.ofList ('0' :: 'x' :: Text.hexOfBytes marker) }
  | v => .error (.amountNotPositive (← shown v))

end IntentGateway.Marker
