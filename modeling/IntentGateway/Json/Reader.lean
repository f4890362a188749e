import IntentGateway.Json.Token
import IntentGateway.Nesting

/-! # Reading JSON

Tokens become a value by a machine with a stack of the lists and maps that are still open. A
document is one value; of two entries of a map with the same key the last counts. The digits of an
integer may be limited, and so may the depth to which lists and maps are nested. What is wrong first
in the order of the text is reported.
-/

namespace IntentGateway.Json

/-- Why a text is not read. -/
inductive Unreadable where
  /-- The text is no JSON. -/
  | malformed
  /-- A list or a map is nested too deep. -/
  | tooDeep (container : Container)
  deriving Repr, DecidableEq

/-- The limits of a reader. -/
structure Limits where
  digits : Option Nat
  depth : Option Nat
  deriving Repr

/-- The limits for what is received. -/
def Limits.standard [Nesting] : Limits where
  digits := some Numeral.digitLimit
  depth := some Nesting.read

/-- No limits. -/
def Limits.none : Limits where
  digits := Option.none
  depth := Option.none

/-- A list or a map that is still open, with what it holds so far backwards, and for a map the key
whose value is due. -/
inductive Frame where
  | list (items : List Value)
  | map (pairs : List (RawText × Value)) (key : RawText)
  deriving Repr, Inhabited

/-- What the machine stands behind, under the frames that are open. -/
inductive Progress where
  /-- A value is due. -/
  | value (frames : List Frame)
  /-- Behind the bracket of a list: a value or the closing bracket is due. -/
  | firstItem (frames : List Frame)
  /-- Behind the brace of a map: a key or the closing brace is due. -/
  | firstKey (frames : List Frame)
  /-- Behind a comma in a map: a key is due. -/
  | key (frames : List Frame) (pairs : List (RawText × Value))
  /-- Behind a key: the colon is due. -/
  | colon (frames : List Frame) (pairs : List (RawText × Value)) (key : RawText)
  /-- A value is complete. -/
  | complete (frames : List Frame) (v : Value)
  deriving Repr, Inhabited

/-- Opens a list or a map inside the frames, unless that is too deep. -/
def Limits.opening (limits : Limits) (frames : List Frame) (container : Container)
    (inside : Progress) : Except Unreadable Progress :=
  if limits.depth.any (· ≤ frames.length) then .error (.tooDeep container) else .ok inside

/-- A token where a value is due. -/
def beginValue (limits : Limits) (frames : List Frame) : Token → Except Unreadable Progress
  | .openList => limits.opening frames .list (.firstItem frames)
  | .openMap => limits.opening frames .map (.firstKey frames)
  | .text raw => .ok (.complete frames (.ofRaw raw))
  | .scalar v => .ok (.complete frames v)
  | _ => .error .malformed

/-- A token behind a complete value: the innermost frame goes on or closes. -/
def continueFrame (frames : List Frame) (v : Value) (token : Token) :
    Except Unreadable Progress :=
  match frames, token with
  | .list items :: outer, .comma => .ok (.value (.list (v :: items) :: outer))
  | .list items :: outer, .closeList => .ok (.complete outer (.list (v :: items).reverse))
  | .map pairs key :: outer, .comma => .ok (.key outer ((key, v) :: pairs))
  | .map pairs key :: outer, .closeMap =>
    .ok (.complete outer (.map (Value.Entries.ofPairs ((key, v) :: pairs).reverse)))
  | _, _ => .error .malformed

/-- One step of the machine. -/
def advance (limits : Limits) (progress : Progress) (token : Token) :
    Except Unreadable Progress :=
  match progress with
  | .value frames => beginValue limits frames token
  | .firstItem frames =>
    match token with
    | .closeList => .ok (.complete frames (.list []))
    | _ => beginValue limits (.list [] :: frames) token
  | .firstKey frames =>
    match token with
    | .closeMap => .ok (.complete frames (.map []))
    | .text key => .ok (.colon frames [] key)
    | _ => .error .malformed
  | .key frames pairs =>
    match token with
    | .text key => .ok (.colon frames pairs key)
    | _ => .error .malformed
  | .colon frames pairs key =>
    match token with
    | .colon => .ok (.value (.map pairs key :: frames))
    | _ => .error .malformed
  | .complete frames v => continueFrame frames v token

/-- The value of a run that has ended. -/
def result : Progress → Except Unreadable Value
  | .complete [] v => .ok v
  | _ => .error .malformed

/-- The value of tokens. -/
def ofTokens (limits : Limits) (tokens : List Token) : Except Unreadable Value :=
  (tokens.foldlM (advance limits) (.value [])).bind result

/-- Reads a document from its code points. -/
def readPoints (limits : Limits) (points : List Text.Point) : Except Unreadable Value :=
  ofTokens limits (tokens limits.digits points)

/-- Reads a document. -/
def readText (limits : Limits) (text : List Char) : Except Unreadable Value :=
  readPoints limits (Text.pointsOf text)

/-- Reads a document from bytes in any encoding that can be detected, under the usual limits. -/
def read [Nesting] (bytes : List UInt8) : Except Unreadable Value :=
  match Text.decode? bytes with
  | some points => readPoints .standard points
  | none => .error .malformed

end IntentGateway.Json
