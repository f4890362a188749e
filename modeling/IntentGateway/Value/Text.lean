import IntentGateway.Binary64.Text
import IntentGateway.Nesting
import IntentGateway.Value.Basic

/-! # Values in messages

A message shows a value as it would be typed: texts and bytes in quotes, a list in brackets, a map
in braces with its entries in their order. Only an integer with too many digits cannot be shown, and
what is nested too deep.
-/

namespace IntentGateway.Value

/-- Parts with a comma between them. -/
def commaSeparated (parts : List String) : String :=
  ", ".intercalate parts

/-- Why a value cannot be shown. -/
inductive Unshowable where
  /-- An integer has too many digits. -/
  | tooLarge
  | tooDeep
  deriving Repr, DecidableEq

/-- The words of a refusal. -/
def Unshowable.message : Unshowable → String
  | .tooLarge => Numeral.Error.tooLarge.message
  | .tooDeep => Nesting.Excess.showing.message

/-- A value as it is shown in messages, where so many values may be nested. -/
def quotedWithin : Nat → Value → Except Unshowable String
  | 0, _ => .error .tooDeep
  | room + 1, v =>
    match v with
    | .null => .ok "None"
    | .bool b => .ok (if b then "True" else "False")
    | .int n => if Numeral.fits n then .ok (Numeral.decimalText n) else .error .tooLarge
    | .float x => .ok x.toText
    | .str s => .ok (RawText.quoted s)
    | .illFormed points => .ok (RawText.illFormed points).quoted
    | .bytes data => .ok (String.ofList (Text.quotedBytes data))
    | .buffer data => .ok (String.ofList (Text.quotedBuffer data))
    | .list items =>
      (items.mapM (quotedWithin room)).map fun parts => "[" ++ commaSeparated parts ++ "]"
    | .map entries =>
      (entries.mapM fun entry =>
          (quotedWithin room entry.2).map fun part => entry.1.quoted ++ ": " ++ part).map
        fun parts => "\x7b" ++ commaSeparated parts ++ "\x7d"

/-- A value as it is shown in messages. -/
def quoted [Nesting] (v : Value) : Except Unshowable String :=
  quotedWithin Nesting.shown v

/-- A value as text: a string stands for itself, anything else is shown as in messages. -/
def text [Nesting] (v : Value) : Except Unshowable RawText :=
  match v.raw? with
  | some raw => .ok raw
  | none =>
    match v.quoted with
    | .ok shown => .ok shown
    | .error e => .error e

end IntentGateway.Value
