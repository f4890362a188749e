import IntentGateway.Numeral.Lax
import IntentGateway.Schema.Checked
import IntentGateway.Text.Encoding

/-! # Decoders of scalars and lists

Integers may come as truth values, as floating-point numbers without a fraction, or as texts; truth
values may come as zero and one or as one of a few words. Texts may come as bytes in UTF-8.
-/

namespace IntentGateway.Schema

/-- Any value. -/
def any : Decoder Value := .valid

/-! ## Texts -/

/-- A text that is given as such. -/
def strictString : Decoder String
  | .str s => .valid s
  | .illFormed points => .fault .illFormedString (.illFormed points)
  | v => .fault .notString v

/-- A text of bytes in UTF-8. Bytes that are none have a fault. -/
def stringOfBytes (fault : Fault) (data : List UInt8) (given : Value) : Checked String :=
  match Text.ofStrictUtf8? data with
  | some text => .valid (String.ofList text)
  | none => .fault fault given

/-- A text. -/
def string : Decoder String
  | .bytes data => stringOfBytes .illFormedString data (.bytes data)
  | .buffer data => stringOfBytes .illFormedString data (.buffer data)
  | v => strictString v

/-- The text that another value is made of, where a value may be given as text: a string, or bytes
that never change. Bytes that are no text have a fault. -/
def givenText? (fault : Fault) : Value → Option (Checked String)
  | .str s => some (.valid s)
  | .illFormed points => some (.fault .illFormedString (.illFormed points))
  | .bytes data => some (stringOfBytes fault data (.bytes data))
  | _ => none

/-! ## Numbers and truth values -/

/-- The magnitude from which on a floating-point number is too large for an integer: 2^63. -/
def floatLimit : Nat := 0x8000000000000000

/-- The integer that a floating-point number is, if it is one below the limit. -/
def integerOfFloat (x : Binary64) : Checked Int :=
  match x.toRat? with
  | none => .fault .notFinite (.float x)
  | some q =>
    if q.den ≠ 1 then .fault .fractional (.float x)
    else if q.num.natAbs < floatLimit then .valid q.num
    else .fault .oversizedInteger (.float x)

/-- The integer that a text gives. -/
def integerOfText (given : Value) (text : String) : Checked Int :=
  match Numeral.readLax text.toList with
  | .value n => .valid n
  | .malformed => .fault .unreadableInteger given
  | .tooLong => .fault .oversizedInteger given

/-- An integer. -/
def integer : Decoder Int
  | .int n => .valid n
  | .bool b => .valid (if b then 1 else 0)
  | .float x => integerOfFloat x
  | v =>
    match givenText? .unreadableInteger v with
    | some text => text.andThen (integerOfText v)
    | none => .fault .notInteger v

/-- An integer that is given as such. -/
def strictInteger : Decoder Int
  | .int n => .valid n
  | v => .fault .notInteger v

/-- Words that stand for a false value. -/
def falseWords : List String := ["0", "off", "f", "false", "n", "no"]

/-- Words that stand for a true value. -/
def trueWords : List String := ["1", "on", "t", "true", "y", "yes"]

/-- The truth value of a word, in any letter case. -/
def booleanOfWord? (word : String) : Option Bool :=
  let lower := String.ofList (word.toList.map Char.toLower)
  if falseWords.contains lower then some false
  else if trueWords.contains lower then some true
  else none

/-- The truth value that an integer stands for. -/
def booleanOfInteger (given : Value) (n : Int) : Checked Bool :=
  if n = 0 then .valid false
  else if n = 1 then .valid true
  else .fault .unreadableBoolean given

/-- The truth value that a word stands for. -/
def booleanOfText (given : Value) (word : String) : Checked Bool :=
  match booleanOfWord? word with
  | some b => .valid b
  | none => .fault .unreadableBoolean given

/-- Whether an integer has at most 64 bits with its sign. -/
def isWord (n : Int) : Bool :=
  decide (-floatLimit ≤ n) && decide (n < floatLimit)

/-- A truth value. A number has to be an integer within limits to be looked at. -/
def boolean : Decoder Bool
  | .bool b => .valid b
  | .int n => if isWord n then booleanOfInteger (.int n) n else .fault .notBoolean (.int n)
  | .float x =>
    match integerOfFloat x with
    | .valid n => booleanOfInteger (.float x) n
    | .invalid _ => .fault .notBoolean (.float x)
  | v =>
    match givenText? .unreadableBoolean v with
    | some word => word.andThen (booleanOfText v)
    | none => .fault .notBoolean v

/-! ## Choices and parts -/

/-- Null, or what a decoder accepts. -/
def optional {α : Type} (decode : Decoder α) : Decoder (Option α)
  | .null => .valid none
  | v => (decode v).map some

/-- A list whose items a decoder accepts. -/
def listOf {α : Type} (decode : Decoder α) : Decoder (List α)
  | .list items => Checked.ofList 0 (items.map decode)
  | v => .fault .notList v

/-- The entries of a map. -/
def entries : Decoder Value.Entries
  | .map entries => .valid entries
  | v => .fault .notMap v

/-- One of a list of texts, read as what it stands for. -/
def among {α : Type} (choices : List (String × α)) : Decoder α
  | .illFormed points => .fault .illFormedString (.illFormed points)
  | v =>
    let chosen : Option (String × α) := match string v with
      | .valid s => choices.find? fun choice => choice.1 == s
      | .invalid _ => none
    match chosen with
    | some choice => .valid choice.2
    | none => .fault (.notAmong (choices.map (·.1))) v

/-- One fixed text. -/
def literal (text : String) : Decoder String
  | .str s => if s = text then .valid s else .fault (.notLiteral text) (.str s)
  | .illFormed points => .fault .illFormedString (.illFormed points)
  | v => .fault (.notLiteral text) v

/-! ## Ranges -/

/-- Bounds on an integer. -/
inductive Bound where
  | moreThan (n : Int)
  | atLeast (n : Int)
  | atMost (n : Int)
  deriving Repr, DecidableEq

/-- The fault of an integer that violates a bound. -/
def Bound.fault? (bound : Bound) (n : Int) : Option Fault :=
  match bound with
  | .moreThan least => if least < n then none else some (.notAbove least)
  | .atLeast least => if least ≤ n then none else some (.below least)
  | .atMost most => if n ≤ most then none else some (.above most)

/-- An integer within bounds. The first violated bound is reported, with the value as it came. -/
def integerWithin (bounds : List Bound) : Decoder Int := fun v =>
  (integer v).andThen fun n =>
    match bounds.findSome? (Bound.fault? · n) with
    | none => .valid n
    | some fault => .fault fault v

end IntentGateway.Schema
