import IntentGateway.Value.Text

/-! # Values as integers

Two conversions make an integer of a value. One takes whatever is numeric, cutting fractions off,
and reads texts and bytes; the other takes only what is an integer already.
-/

namespace IntentGateway

/-- Why a value does not become an integer. -/
inductive Conversion where
  | unreadable (error : Numeral.Error)
  | notANumber
  | infinite
  /-- A value of a kind that no integer is made of. -/
  | wrongKind (kindName : String)
  /-- A value that is no integer where one is taken as it is. -/
  | notAnInteger (kindName : String)
  deriving Repr, DecidableEq

/-- The words of a failed conversion. -/
def Conversion.message : Conversion → String
  | .unreadable error => error.message
  | .notANumber => "cannot convert float NaN to integer"
  | .infinite => "cannot convert float infinity to integer"
  | .wrongKind kindName =>
    "int() argument must be a string, a bytes-like object or a real number, not '"
      ++ kindName ++ "'"
  | .notAnInteger kindName =>
    "'" ++ kindName ++ "' object cannot be interpreted as an integer"

namespace Binary64

/-- The integer part of a number, toward zero. -/
def truncate : Binary64 → Except Conversion Int
  | .nan => .error .notANumber
  | .infinite _ => .error .infinite
  | x@(.finite ..) =>
    match x.toRat? with
    | some q => .ok (q.num.tdiv q.den)
    | none => .ok 0

end Binary64

namespace Value

/-- A reading of a text as the result of a conversion. -/
def ofReading : Except Numeral.Error Int → Except Conversion Int
  | .ok n => .ok n
  | .error e => .error (.unreadable e)

/-- Makes an integer of whatever is numeric, and of texts and bytes. -/
def toInteger : Value → Except Conversion Int
  | .int n => .ok n
  | .bool b => .ok (if b then 1 else 0)
  | .float x => x.truncate
  | .str s => ofReading (Numeral.read 10 s.toList)
  | .illFormed points => ofReading (Numeral.readRaw 10 (.illFormed points))
  | .bytes data => ofReading (Numeral.readBytes data)
  | .buffer data => ofReading (Numeral.readBytes data)
  | v => .error (.wrongKind v.kindName)

/-- Takes an integer as it is; a truth value counts as one. -/
def asInteger : Value → Except Conversion Int
  | .int n => .ok n
  | .bool b => .ok (if b then 1 else 0)
  | v => .error (.notAnInteger v.kindName)

end Value

end IntentGateway
