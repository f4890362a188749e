import IntentGateway.Text.Hex
import IntentGateway.Text.Printable
import IntentGateway.Text.Raw

/-! # Quoted texts and bytes

Messages show a text between quotes, single ones unless the text holds single quotes and no double
one. Inside, the backslash and the quote in use stand behind a backslash, line feed, carriage return
and tab have letters, and every other character that is not printable is written by its code point,
and so is a surrogate.
Bytes are shown in the same way behind a `b`, and all beyond printable ASCII by number.
-/

namespace IntentGateway

namespace Text

/-- The quote for a content: double only where it avoids escaping a single one. -/
def quoteFor (content : List Char) : Char :=
  if content.contains '\'' && !content.contains '"' then '"' else '\''

/-- The escapes that have a letter, and those of the backslash and of the quote in use. -/
def letterEscape? (quote c : Char) : Option (List Char) :=
  if c = '\\' then some ['\\', '\\']
  else if c = quote then some ['\\', quote]
  else if c = '\n' then some ['\\', 'n']
  else if c = '\r' then some ['\\', 'r']
  else if c = '\t' then some ['\\', 't']
  else none

/-- A code point by number, in two, four or eight digits as its size needs. -/
def pointEscape (point : Nat) : List Char :=
  if point < 0x100 then '\\' :: 'x' :: hexPadded 2 point
  else if point < 0x10000 then '\\' :: 'u' :: hexPadded 4 point
  else '\\' :: 'U' :: hexPadded 8 point

/-- How a character of a text stands between the quotes. -/
def escaped (quote c : Char) : List Char :=
  (letterEscape? quote c).getD (if isPrintable c then [c] else pointEscape c.toNat)

/-- A text between quotes. -/
def quoted (content : List Char) : List Char :=
  let quote := quoteFor content
  quote :: content.flatMap (escaped quote) ++ [quote]

/-- How a code point stands between the quotes. -/
def escapedPoint (quote : Char) : Point → List Char
  | .char c => escaped quote c
  | .surrogate place => pointEscape (Point.surrogate place).toNat

/-- Code points between quotes. -/
def quotedPoints (points : List Point) : List Char :=
  let quote := quoteFor (points.map Point.charOrReplacement)
  quote :: points.flatMap (escapedPoint quote) ++ [quote]

/-- How a byte stands between the quotes. -/
def escapedByte (quote : Char) (byte : UInt8) : List Char :=
  let c := Char.ofNat byte.toNat
  (letterEscape? quote c).getD
    (if 0x20 ≤ byte.toNat ∧ byte.toNat < 0x7F then [c] else pointEscape byte.toNat)

/-- The quote for bytes. -/
def quoteForBytes (bytes : List UInt8) : Char :=
  quoteFor (bytes.map fun byte => Char.ofNat byte.toNat)

/-- Bytes between quotes, behind a `b`. -/
def quotedBytes (bytes : List UInt8) : List Char :=
  let quote := quoteForBytes bytes
  'b' :: quote :: bytes.flatMap (escapedByte quote) ++ [quote]

/-- The bytes of a buffer between quotes. Single quotes are escaped inside either kind of quotes. -/
def quotedBuffer (bytes : List UInt8) : List Char :=
  let quote := quoteForBytes bytes
  "bytearray(b".toList ++ quote :: bytes.flatMap (escapedByte '\'') ++ [quote, ')']

end Text

namespace RawText

/-- The characters of a raw text between quotes. -/
def quotedChars : RawText → List Char
  | .text s => Text.quoted s.toList
  | .illFormed points => Text.quotedPoints points

/-- A raw text between quotes. -/
def quoted (raw : RawText) : String :=
  String.ofList raw.quotedChars

end RawText

end IntentGateway
