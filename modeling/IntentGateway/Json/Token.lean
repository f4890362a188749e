import IntentGateway.Numeral.Basic
import IntentGateway.Text.Encoding
import IntentGateway.Value.Basic

/-! # JSON tokens

A JSON text is read in two passes: code points to tokens, tokens to a value. The first pass is a
machine that takes one code point at a time. Outside strings the longest run of letters, digits,
signs and points is one word, and a word is a literal or a number. Besides the literals of the
format, `NaN`, `Infinity` and `-Infinity` are words. A string may hold any character from the space
on, surrogates, and the escapes of the format; two escapes of surrogates that make a pair are one
character. Where the text is no JSON, the tokens end with an invalid one.
-/

namespace IntentGateway.Json

/-- A token: punctuation, a string, another scalar, or where the text is no JSON. -/
inductive Token where
  | openList
  | closeList
  | openMap
  | closeMap
  | comma
  | colon
  | text (raw : RawText)
  | scalar (v : Value)
  | invalid
  deriving Repr, Inhabited

/-! ## Words -/

/-- Splits off the leading ASCII digits. -/
def splitDigits (text : List Char) : List Char × List Char :=
  (text.takeWhile Char.isDigit, text.dropWhile Char.isDigit)

/-- The integer part of a number: a zero alone, or digits that begin with another one. -/
def wholePart? (text : List Char) : Option (List Char × List Char) :=
  match text with
  | '0' :: rest => some (['0'], rest)
  | _ =>
    let (digits, rest) := splitDigits text
    if digits.isEmpty then none else some (digits, rest)

/-- The fraction of a number: nothing, or a point and digits. -/
def fractionPart? : List Char → Option (List Char × List Char)
  | '.' :: text =>
    let (digits, rest) := splitDigits text
    if digits.isEmpty then none else some (digits, rest)
  | text => some ([], text)

/-- The exponent of a number, which ends it: digits behind a mark and perhaps a sign. -/
def exponentPart? (text : List Char) : Option Int :=
  let (negative, unsigned) := Numeral.splitSign text
  let (digits, rest) := splitDigits unsigned
  if digits.isEmpty || !rest.isEmpty then none
  else some (Numeral.signed negative (Numeral.ofAsciiDigits digits))

/-- A number without its sign. Without fraction and exponent it is an integer, whose digits may be
limited; otherwise it is a floating-point number. -/
def unsignedNumber? (maxDigits : Option Nat) (negative : Bool) (text : List Char) : Option Value :=
  match wholePart? text with
  | none => none
  | some (whole, rest) =>
    match fractionPart? rest with
    | none => none
    | some (fraction, rest') =>
      let decimal (exponent : Int) : Value :=
        .float (Binary64.ofDecimal negative (Numeral.ofAsciiDigits (whole ++ fraction))
          (exponent - fraction.length))
      match rest' with
      | [] =>
        if fraction.isEmpty then
          if maxDigits.any (· < whole.length) then none
          else some (.int (Numeral.signed negative (Numeral.ofAsciiDigits whole)))
        else some (decimal 0)
      | 'e' :: exponent => (exponentPart? exponent).map decimal
      | 'E' :: exponent => (exponentPart? exponent).map decimal
      | _ => none

/-- A number. -/
def number? (maxDigits : Option Nat) : List Char → Option Value
  | '-' :: text => unsignedNumber? maxDigits true text
  | text => unsignedNumber? maxDigits false text

/-- The literals. -/
def literals : List (String × Value) :=
  [("null", .null), ("true", .bool true), ("false", .bool false), ("NaN", .float .nan),
    ("Infinity", .float (.infinite false)), ("-Infinity", .float (.infinite true))]

/-- The token of a word. -/
def wordToken? (maxDigits : Option Nat) (word : List Char) : Option Token :=
  match literals.find? (fun literal => literal.1.toList == word) with
  | some literal => some (.scalar literal.2)
  | none => (number? maxDigits word).map .scalar

/-! ## The machine -/

/-- Where the machine stands. What a string or a word holds so far is kept backwards. -/
inductive Position where
  | between
  | word (read : List Char)
  | inString (read : List Text.Point)
  /-- Behind a backslash. -/
  | escape (read : List Text.Point)
  /-- Inside the four digits of an escape, perhaps the second of a surrogate pair. -/
  | unit (read : List Text.Point) (high : Option Nat) (value : Nat) (digitsLeft : Nat)
  /-- Behind a surrogate that may be the first of a pair: the backslash of the second may follow. -/
  | pairMark (read : List Text.Point) (high : Nat)
  /-- Behind that backslash: its letter may follow. -/
  | pairLetter (read : List Text.Point) (high : Nat)
  deriving Repr

/-- The white space of the format. -/
def isWhite (c : Char) : Bool :=
  c == ' ' || c == '\t' || c == '\n' || c == '\r'

/-- The characters of words. -/
def isWordChar (c : Char) : Bool :=
  c.isAlphanum || c == '-' || c == '+' || c == '.'

/-- The token that a punctuation character is. -/
def punctuation? (c : Char) : Option Token :=
  match c with
  | '[' => some .openList
  | ']' => some .closeList
  | '\x7b' => some .openMap
  | '\x7d' => some .closeMap
  | ',' => some .comma
  | ':' => some .colon
  | _ => none

/-- The character that an escape letter stands for. -/
def escapeLetter? (c : Char) : Option Char :=
  match c with
  | '"' => some '"'
  | '\\' => some '\\'
  | '/' => some '/'
  | 'b' => some '\x08'
  | 'f' => some '\x0c'
  | 'n' => some '\n'
  | 'r' => some '\r'
  | 't' => some '\t'
  | _ => none

/-- The string that was read backwards. -/
def stringToken (read : List Text.Point) : Token :=
  .text (.ofPoints read.reverse)

/-- A character between tokens. -/
def stepBetween (c : Char) : Option (Position × List Token) :=
  if isWhite c then some (.between, [])
  else if c == '"' then some (.inString [], [])
  else if isWordChar c then some (.word [c], [])
  else (punctuation? c).map fun token => (.between, [token])

/-- What a complete escape of four digits adds: a code point, or perhaps the first half of a pair.
-/
def openPair (read : List Text.Point) (value : Nat) : Position :=
  if Text.isHighSurrogate value then .pairMark read value else .inString (.ofNat value :: read)

/-- What a complete escape of four digits adds behind another one that may be the first half. -/
def closeUnit (read : List Text.Point) (high : Option Nat) (value : Nat) : Position :=
  match high with
  | none => openPair read value
  | some first =>
    if Text.isLowSurrogate value then .inString (.ofNat (Text.pairPoint first value) :: read)
    else openPair (.ofNat first :: read) value

/-- A character in a string. -/
def stepInString (read : List Text.Point) (c : Char) : Option (Position × List Token) :=
  if c == '"' then some (.between, [stringToken read])
  else if c == '\\' then some (.escape read, [])
  else if c.toNat < 0x20 then none
  else some (.inString (.char c :: read), [])

/-- A character behind a backslash. -/
def stepEscape (read : List Text.Point) (c : Char) : Option (Position × List Token) :=
  if c == 'u' then some (.unit read none 0 4, [])
  else (escapeLetter? c).map fun d => (.inString (.char d :: read), [])

/-- A character: the next position and the tokens that are complete. -/
def stepChar (maxDigits : Option Nat) (position : Position) (c : Char) :
    Option (Position × List Token) :=
  match position with
  | .between => stepBetween c
  | .word read =>
    if isWordChar c then some (.word (c :: read), [])
    else
      match wordToken? maxDigits read.reverse, stepBetween c with
      | some token, some (next, tokens) => some (next, token :: tokens)
      | _, _ => none
  | .inString read => stepInString read c
  | .escape read => stepEscape read c
  | .unit read high value digitsLeft =>
    match Text.hexValue? c with
    | none => none
    | some digit =>
      if digitsLeft ≤ 1 then some (closeUnit read high (16 * value + digit), [])
      else some (.unit read high (16 * value + digit) (digitsLeft - 1), [])
  | .pairMark read high =>
    if c == '\\' then some (.pairLetter read high, []) else stepInString (.ofNat high :: read) c
  | .pairLetter read high =>
    if c == 'u' then some (.unit read (some high) 0 4, []) else stepEscape (.ofNat high :: read) c

/-- A surrogate, which may stand in a string only. -/
def stepSurrogate (position : Position) (place : Fin 0x800) : Option (Position × List Token) :=
  match position with
  | .inString read => some (.inString (.surrogate place :: read), [])
  | .pairMark read high => some (.inString (.surrogate place :: .ofNat high :: read), [])
  | _ => none

/-- One step of the machine: the next position and the tokens that are complete. -/
def step (maxDigits : Option Nat) (position : Position) :
    Text.Point → Option (Position × List Token)
  | .char c => stepChar maxDigits position c
  | .surrogate place => stepSurrogate position place

/-- The tokens that are complete at the end of the text. -/
def finish (maxDigits : Option Nat) : Position → Option (List Token)
  | .between => some []
  | .word read => (wordToken? maxDigits read.reverse).map ([·])
  | _ => none

/-- The tokens of a text from a position of the machine on, behind those that are `done`
backwards. -/
def tokensFrom (maxDigits : Option Nat) (position : Position) (done : List Token) :
    List Text.Point → List Token
  | [] => done.reverse ++ (finish maxDigits position).getD [.invalid]
  | point :: text =>
    match step maxDigits position point with
    | none => (.invalid :: done).reverse
    | some (next, tokens) => tokensFrom maxDigits next (tokens.reverse ++ done) text

/-- The tokens of a text. -/
def tokens (maxDigits : Option Nat) (text : List Text.Point) : List Token :=
  tokensFrom maxDigits .between [] text

end IntentGateway.Json
