import IntentGateway.Text.Blank
import IntentGateway.Text.Digit
import IntentGateway.Text.Quoted

/-! # Integers as text

Integers are written in decimal without leading zeros, or in hexadecimal behind `0x`. An integer is
read with white space around it, with a sign, with decimal digits of any script and with single
underscores between digits. Reading and writing decimal texts stops at 4300 digits.
-/

namespace IntentGateway

namespace Numeral

/-- The longest decimal text of an integer, in digits. -/
def digitLimit : Nat := 4300

/-- Why a text is not read as an integer, or an integer is not written as a text. -/
inductive Error where
  /-- The text, shown in quotes, is no integer in the base. -/
  | malformed (base : Nat) (shown : String)
  /-- The text has too many digits. -/
  | tooLong (digits : Nat)
  /-- The integer has too many digits. -/
  | tooLarge
  deriving Repr, DecidableEq

/-- How every refusal for the number of digits begins. -/
def limitMessage : String :=
  "Exceeds the limit (4300 digits) for integer string conversion"

/-- The words of an error. -/
def Error.message : Error → String
  | .malformed base shown =>
    "invalid literal for int() with base " ++ toString base ++ ": " ++ shown
  | .tooLong digits =>
    limitMessage ++ ": value has " ++ toString digits
      ++ " digits; use sys.set_int_max_str_digits() to increase the limit"
  | .tooLarge => limitMessage ++ "; use sys.set_int_max_str_digits() to increase the limit"

/-! ## Writing -/

/-- An integer in decimal, whatever its size. -/
def decimalChars (n : Int) : List Char :=
  if n < 0 then '-' :: Nat.toDigits 10 n.natAbs else Nat.toDigits 10 n.natAbs

/-- An integer in decimal, whatever its size. -/
def decimalText (n : Int) : String :=
  String.ofList (decimalChars n)

/-- Whether the decimal text of an integer is short enough to be written. -/
def fits (n : Int) : Bool :=
  decide ((Nat.toDigits 10 n.natAbs).length ≤ digitLimit)

/-- An integer in decimal, unless it has too many digits. -/
def decimal (n : Int) : Except Error String :=
  if fits n then .ok (decimalText n) else .error .tooLarge

/-- An integer in hexadecimal behind `0x`; a sign stands in front. Any size is written. -/
def hexText (n : Int) : String :=
  String.ofList ((if n < 0 then ['-'] else []) ++ '0' :: 'x' :: Nat.toDigits 16 n.natAbs)

/-! ## Reading -/

/-- The value of a digit in base ten or sixteen. Decimal digits may be of any script. -/
def digitValue? (base : Nat) (c : Char) : Option Nat :=
  match Text.decimalValue? c with
  | some d => some d
  | none => if base = 16 then Text.hexValue? c else none

/-- The number that digits denote, the most significant one first. -/
def ofDigits (base : Nat) (digits : List Nat) : Nat :=
  digits.foldl (fun n d => base * n + d) 0

/-- A number with a sign. -/
def signed (negative : Bool) (n : Nat) : Int :=
  if negative then -n else n

/-- The number that ASCII digits denote. -/
def ofAsciiDigits (digits : List Char) : Nat :=
  Nat.ofDigitChars 10 digits 0

/-- Reads digits with single underscores between them; the digits and the rest of the text. A digit
is `due` at the start and behind an underscore. -/
def readDigits? (base : Nat) (due : Bool) : List Char → Option (List Nat × List Char)
  | [] => if due then none else some ([], [])
  | c :: text =>
    match digitValue? base c with
    | some d => (readDigits? base false text).map fun (ds, rest) => (d :: ds, rest)
    | none =>
      if due then none
      else if c = '_' then readDigits? base true text
      else some ([], c :: text)

/-- Splits off a sign; whether it is a minus, and the rest. -/
def splitSign : List Char → Bool × List Char
  | '-' :: text => (true, text)
  | '+' :: text => (false, text)
  | text => (false, text)

/-- Drops what may stand between the sign and the digits in base sixteen: the marker `0x` with one
underscore behind it. -/
def dropBaseMarker (base : Nat) (text : List Char) : List Char :=
  if base = 16 && Text.hasHexMarker text then
    match Text.dropHexMarker text with
    | '_' :: rest => rest
    | rest => rest
  else text

/-- How much of a quotation an error shows. -/
def shownLength : Nat := 200

/-- The error for a text that is no integer; its quotation is cut. -/
def malformed (base : Nat) (shown : List Char) : Error :=
  .malformed base (String.ofList (shown.take shownLength))

/-- Reads an integer in base ten or sixteen. The number of digits is limited in base ten only, and
too many of them are reported before anything behind them. -/
def readAs (base : Nat) (shown text : List Char) : Except Error Int :=
  let (negative, unsigned) := splitSign (text.dropWhile Text.isSpace)
  match readDigits? base true (dropBaseMarker base unsigned) with
  | none => .error (malformed base shown)
  | some (digits, rest) =>
    if base = 10 ∧ digitLimit < digits.length then .error (.tooLong digits.length)
    else if rest.all Text.isSpace then .ok (signed negative (ofDigits base digits))
    else .error (malformed base shown)

/-- Reads a text as an integer. -/
def read (base : Nat) (text : List Char) : Except Error Int :=
  readAs base (Text.quoted text) text

/-- Reads a raw text as an integer. A surrogate is no digit. -/
def readRaw (base : Nat) (raw : RawText) : Except Error Int :=
  readAs base raw.quotedChars raw.chars

/-- Reads bytes as an integer: ASCII bytes are characters, all others stand for no digit. Of bytes
that are no integer only so many are quoted as an error may show of the quotation. -/
def readBytes (bytes : List UInt8) : Except Error Int :=
  let text := bytes.map fun byte => if byte.toNat < 0x80 then Char.ofNat byte.toNat else '?'
  readAs 10 (Text.quotedBytes (bytes.take shownLength)) text

end Numeral

end IntentGateway
