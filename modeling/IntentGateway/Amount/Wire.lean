import IntentGateway.Failure
import IntentGateway.Schema.Scalar

/-! # Amounts on the wire

Intents carry amounts as decimal texts, the chain carries quantities as hexadecimal texts behind
`0x`. Both are read leniently; a request gives an amount as ASCII digits only.
-/

namespace IntentGateway.Amount

/-- A decoder of integers that first reads texts in a way of their own. -/
def readingText (read : RawText → Except String Int) (bounds : List Schema.Bound) :
    Schema.Decoder Int := fun v =>
  match v.raw? with
  | some raw =>
    match read raw with
    | .ok n => Schema.integerWithin bounds (.int n)
    | .error message => .fault (.refused message) v
  | none => Schema.integerWithin bounds v

/-- A reading of an integer with its error in words. -/
def worded : Except Numeral.Error Int → Except String Int
  | .ok n => .ok n
  | .error e => .error e.message

/-- Reads a text of digits of any script. A sign that shows a digit without being one passes the
first look and fails to be read. -/
def readDecimal (raw : RawText) : Except String Int :=
  if !raw.isEmpty && raw.chars.all Text.isDigitSign then worded (Numeral.readRaw 10 raw)
  else .error ("expected a decimal string, got " ++ raw.quoted)

/-- Reads a hexadecimal text behind its marker. -/
def readQuantity (raw : RawText) : Except String Int :=
  if Text.hasHexMarker raw.chars then worded (Numeral.readRaw 16 raw)
  else .error ("expected a 0x-hex quantity, got " ++ raw.quoted)

/-- An amount that texts give in decimal. -/
def decimal (bounds : List Schema.Bound) : Schema.Decoder Int :=
  readingText readDecimal bounds

/-- An amount that texts give in hexadecimal. -/
def quantity (bounds : List Schema.Bound) : Schema.Decoder Int :=
  readingText readQuantity bounds

/-- The amount of a request: ASCII digits, with blanks around them. -/
def ofRequest (raw : RawText) : Except Failure Int :=
  let digits := Text.strip raw.chars
  if digits.isEmpty || !digits.all Char.isDigit then
    .error (.worded .invalidAmount "Amount must be a decimal integer string"
      [("amount", .ofRaw raw)])
  else
    match Numeral.read 10 digits with
    | .ok n => .ok n
    | .error e => .error (.numeral e)

end IntentGateway.Amount
