import IntentGateway.Nesting
import IntentGateway.Value.Text

/-! # Writing JSON

Values are written without white space, and characters beyond ASCII as they are. Integers with too
many digits, strings that are no texts, and bytes have no JSON form, and neither has a value that is
nested too deep. Numbers that are not finite have none either; a loose writer writes them as the
words that a reader takes for them.
-/

namespace IntentGateway.Json

/-- Why a value has no JSON form: the first part of it that has none, but for strings. -/
inductive Unwritable where
  | notFinite
  | tooLarge
  /-- A list or a map is nested too deep. -/
  | tooDeep
  /-- A string or a key is no text. -/
  | illFormed
  | kind (name : String)
  deriving Repr, DecidableEq

/-- The words of a refusal. -/
def Unwritable.message : Unwritable → String
  | .notFinite => "Out of range float values are not JSON compliant"
  | .tooLarge => Numeral.Error.tooLarge.message
  | .tooDeep => Nesting.Excess.writing.message
  | .illFormed => "surrogates not allowed"
  | .kind name => "Object of type " ++ name ++ " is not JSON serializable"

/-- How a character stands in a string. -/
def escapeChar (c : Char) : List Char :=
  match c with
  | '"' => ['\\', '"']
  | '\\' => ['\\', '\\']
  | '\n' => ['\\', 'n']
  | '\r' => ['\\', 'r']
  | '\t' => ['\\', 't']
  | '\x08' => ['\\', 'b']
  | '\x0c' => ['\\', 'f']
  | _ => if c.toNat < 0x20 then '\\' :: 'u' :: Text.hexPadded 4 c.toNat else [c]

/-- A string in quotes. -/
def writeString (s : String) : List Char :=
  '"' :: s.toList.flatMap escapeChar ++ ['"']

/-- A string or a key, which has to be a text. -/
def writeRaw : RawText → Except Unwritable (List Char)
  | .text s => .ok (writeString s)
  | .illFormed _ => .error .illFormed

/-- How a loose writer writes a floating-point number. -/
def looseFloat : Binary64 → List Char
  | .nan => "NaN".toList
  | .infinite negative => if negative then "-Infinity".toList else "Infinity".toList
  | x => x.toText.toList

/-- The texts of two parts, joined. That a string is no text shows only when all is written, so
another refusal of either part goes before it. -/
def joined (join : List Char → List Char → List Char) :
    Except Unwritable (List Char) → Except Unwritable (List Char) → Except Unwritable (List Char)
  | .ok first, .ok second => .ok (join first second)
  | .ok _, .error e => .error e
  | .error .illFormed, .error e => .error e
  | .error e, _ => .error e

/-- A key with its value. -/
def keyed (key value : List Char) : List Char :=
  key ++ ':' :: value

/-- An item or an entry, with those behind it. -/
def separated (first rest : List Char) : List Char :=
  if rest.isEmpty then first else first ++ ',' :: rest

mutual

/-- The JSON text of a value, from a strict or a loose writer, where so many lists and maps may be
nested. -/
def writeWithin (loose : Bool) (room : Nat) : Value → Except Unwritable (List Char)
  | .null => .ok "null".toList
  | .bool b => .ok (if b then "true".toList else "false".toList)
  | .int n => if Numeral.fits n then .ok (Numeral.decimalChars n) else .error .tooLarge
  | .float x =>
    if x.toRat?.isSome || loose then .ok (looseFloat x) else .error .notFinite
  | .str s => .ok (writeString s)
  | .illFormed points => writeRaw (.illFormed points)
  | .bytes data => .error (.kind (Value.bytes data).kindName)
  | .buffer data => .error (.kind (Value.buffer data).kindName)
  | .list items =>
    match room with
    | 0 => .error .tooDeep
    | room + 1 => (writeItems loose room items).map fun text => '[' :: text ++ [']']
  | .map entries =>
    match room with
    | 0 => .error .tooDeep
    | room + 1 => (writeEntries loose room entries).map fun text => '\x7b' :: text ++ ['\x7d']

/-- Items with commas between them. -/
def writeItems (loose : Bool) (room : Nat) : List Value → Except Unwritable (List Char)
  | [] => .ok []
  | item :: items =>
    joined separated (writeWithin loose room item) (writeItems loose room items)

/-- Entries with commas between them. -/
def writeEntries (loose : Bool) (room : Nat) :
    List (RawText × Value) → Except Unwritable (List Char)
  | [] => .ok []
  | (key, value) :: entries =>
    joined separated (joined keyed (writeRaw key) (writeWithin loose room value))
      (writeEntries loose room entries)

end

/-- The JSON text of a value, from a strict or a loose writer. -/
def writeWith [Nesting] (loose : Bool) (v : Value) : Except Unwritable (List Char) :=
  writeWithin loose Nesting.written v

/-- The JSON text of a value. -/
def write [Nesting] (v : Value) : Except Unwritable (List Char) :=
  writeWith false v

end IntentGateway.Json
