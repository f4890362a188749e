import IntentGateway.Numeral.Basic

/-! # Integers in received fields

A field of a received record may give an integer as a text of ASCII digits. A plain text is an
integer as JSON writes it. Any other text is made plain first: white space around it and a plus are
dropped, then leading zeros, a fraction of zeros behind a point, and single underscores between
digits. Among leading zeros underscores may stand in any number, and behind them a minus.
-/

namespace IntentGateway.Numeral

/-- What a text in an integer field amounts to. -/
inductive Lax where
  | value (n : Int)
  | malformed
  | tooLong
  deriving Repr, DecidableEq

/-- Reads a plain text: perhaps a minus, then a zero alone or digits that begin with another one.
Too many digits are reported before anything behind them. -/
def readPlain (text : List Char) : Lax :=
  let (negative, unsigned) := match text with
    | '-' :: rest => (true, rest)
    | _ => (false, text)
  let digits := unsigned.takeWhile Char.isDigit
  let rest := unsigned.dropWhile Char.isDigit
  if digits.isEmpty then .malformed
  else if digits.head? = some '0' then
    if unsigned = ['0'] then .value 0 else .malformed
  else if digitLimit < digits.length then .tooLong
  else if rest.isEmpty then .value (signed negative (ofAsciiDigits digits))
  else .malformed

/-! ## Making a text plain -/

/-- Drops the zeros and underscores behind a leading zero, of which `last` is the last so far. In
front of a point and at the end one of them stays. -/
def dropZeros? (last : Char) : List Char → Option (List Char)
  | [] => some [last]
  | c :: text =>
    if c = '0' ∨ c = '_' then dropZeros? c text
    else if c = '.' then some (last :: c :: text)
    else if c.isDigit ∨ c = '-' then some (c :: text)
    else none

/-- Drops the leading zeros of a text without a sign. -/
def dropLeadingZeros? : List Char → Option (List Char)
  | [] => none
  | c :: text =>
    if c = '0' then dropZeros? c text
    else if c.isDigit then some (c :: text)
    else none

/-- Drops a point with zeros and nothing else behind it. -/
def dropZeroFraction (text : List Char) : List Char :=
  match text.dropWhile (· ≠ '.') with
  | '.' :: fraction =>
    if !fraction.isEmpty && fraction.all (· = '0') then text.takeWhile (· ≠ '.') else text
  | _ => text

/-- Makes a text without a sign plain. -/
def plainDigits? (text : List Char) : Option (List Char) :=
  (dropLeadingZeros? text).map fun digits =>
    let whole := dropZeroFraction digits
    (Text.dropUnderscores? whole).getD whole

/-- Makes a text plain, as far as that is possible. -/
def plain? (text : List Char) : Option (List Char) :=
  match Text.stripOf Text.isSpace text with
  | '-' :: unsigned => (plainDigits? unsigned).map ('-' :: ·)
  | '+' :: unsigned => plainDigits? unsigned
  | unsigned => plainDigits? unsigned

/-- Reads an integer field. Leading zeros do not count towards the number of digits. Too many digits
are reported as such only if the text begins with them or with a minus and them; behind anything
else that has to be dropped first they make the text malformed. -/
def readLax (text : List Char) : Lax :=
  match readPlain text with
  | .malformed =>
    match (plain? text).map readPlain with
    | some (.value n) => .value n
    | _ => .malformed
  | read => read

end IntentGateway.Numeral
