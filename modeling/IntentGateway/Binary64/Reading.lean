import IntentGateway.Binary64.Basic
import IntentGateway.Numeral.Basic

/-! # Floating-point numbers from text

A number is read from ASCII digits with a point anywhere among, before or behind them, and perhaps
an exponent; infinity and what is no number have words of their own. White space around the text is
skipped. A text that is not readable so is read once more with its underscores left out, if none of
them stands at an end or next to another one.
-/

namespace IntentGateway.Binary64

/-- Reads what is behind the digits of a number: nothing, or an exponent. -/
def readExponent? : List Char → Option Int
  | [] => some 0
  | mark :: text =>
    let (negative, digits) := Numeral.splitSign text
    if mark.toLower != 'e' || digits.isEmpty || !digits.all Char.isDigit then none
    else some (Numeral.signed negative (Numeral.ofAsciiDigits digits))

/-- Reads digits with at most one point. -/
def readDigits? (negative : Bool) (text : List Char) : Option Binary64 :=
  let whole := text.takeWhile Char.isDigit
  let (fraction, rest) := match text.dropWhile Char.isDigit with
    | '.' :: behind => (behind.takeWhile Char.isDigit, behind.dropWhile Char.isDigit)
    | behind => ([], behind)
  if whole.isEmpty && fraction.isEmpty then none
  else
    (readExponent? rest).map fun exponent =>
      ofDecimal negative (Numeral.ofAsciiDigits (whole ++ fraction)) (exponent - fraction.length)

/-- Reads a number with nothing around it. -/
def readExact? (text : List Char) : Option Binary64 :=
  let (negative, unsigned) := Numeral.splitSign text
  let word := String.ofList (unsigned.map Char.toLower)
  if word = "inf" ∨ word = "infinity" then some (.infinite negative)
  else if word = "nan" then some .nan
  else readDigits? negative unsigned

/-- Reads a number. -/
def read? (text : List Char) : Option Binary64 :=
  (readExact? (Text.stripOf Text.isSpace text)).or ((Text.dropUnderscores? text).bind readExact?)

end IntentGateway.Binary64
