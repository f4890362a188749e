import IntentGateway.Binary64.Basic
import IntentGateway.Text.Raw

/-! # Received values

What a caller, a peer or a node hands over is a value whose kind is known only at run time: the
kinds of a JSON document, and bytes. A string may hold surrogates, and then is no text; so may a
key. The entries of a map keep the order in which their keys first came.
-/

namespace IntentGateway

/-- A value whose kind is known only at run time. -/
inductive Value where
  | null
  | bool (b : Bool)
  | int (n : Int)
  | float (x : Binary64)
  | str (s : String)
  /-- A string that is no text because of the surrogates in it. -/
  | illFormed (points : List Text.Point)
  /-- Bytes that never change. -/
  | bytes (data : List UInt8)
  /-- Bytes that may be written to; they differ only in how they are shown. -/
  | buffer (data : List UInt8)
  | list (items : List Value)
  | map (entries : List (RawText × Value))
  deriving Repr, Inhabited

namespace Value

/-- Entries of a map. -/
abbrev Entries := List (RawText × Value)

/-- The name of the kind of a value in messages. -/
def kindName : Value → String
  | .null => "NoneType"
  | .bool _ => "bool"
  | .int _ => "int"
  | .float _ => "float"
  | .str _ => "str"
  | .illFormed _ => "str"
  | .bytes _ => "bytes"
  | .buffer _ => "bytearray"
  | .list _ => "list"
  | .map _ => "dict"

/-- Whether a value counts as true: null, zero and whatever is empty do not. -/
def isTruthy : Value → Bool
  | .null => false
  | .bool b => b
  | .int n => n != 0
  | .float x => x.isTruthy
  | .str s => !s.isEmpty
  | .illFormed points => !points.isEmpty
  | .bytes data => !data.isEmpty
  | .buffer data => !data.isEmpty
  | .list items => !items.isEmpty
  | .map entries => !entries.isEmpty

/-- Whether a value is null. -/
def isNull : Value → Bool
  | .null => true
  | _ => false

/-- A string. -/
def ofRaw : RawText → Value
  | .text s => .str s
  | .illFormed points => .illFormed points

/-- The string that a value is. -/
def raw? : Value → Option RawText
  | .str s => some (.text s)
  | .illFormed points => some (.illFormed points)
  | _ => none

/-- A string comes back as it was. -/
theorem raw?_ofRaw (raw : RawText) : (ofRaw raw).raw? = some raw := by
  cases raw <;> rfl

/-- Only a string has a text. -/
theorem eq_ofRaw_of_raw? {v : Value} {raw : RawText} (h : v.raw? = some raw) : v = ofRaw raw := by
  cases v with
  | str s =>
    cases h
    rfl
  | illFormed points =>
    cases h
    rfl
  | _ => cases h

/-- The integer of a value that is one; a truth value is none. -/
def int? : Value → Option Int
  | .int n => some n
  | _ => none

/-- The integer that a value is numerically equal to: truth values are one and zero. -/
def numeric? : Value → Option Int
  | .int n => some n
  | .bool b => some (if b then 1 else 0)
  | .float x => x.toInt?
  | _ => none

/-- Whether a value is numerically equal to an integer. -/
def equalsInt (v : Value) (n : Int) : Bool :=
  v.numeric? == some n

/-- A value that is null if there is none. -/
def ofOption {α : Type} (encode : α → Value) : Option α → Value
  | some a => encode a
  | none => .null

namespace Entries

/-- The value of a key. -/
def find? (entries : Entries) (key : String) : Option Value :=
  (List.find? (fun entry => entry.1 == .text key) entries).map (·.2)

/-- Sets the value of a key. A key that is there keeps its place, a new one goes to the end. -/
def insert (key : RawText) (value : Value) : Entries → Entries
  | [] => [(key, value)]
  | (k, v) :: rest => if k = key then (k, value) :: rest else (k, v) :: insert key value rest

/-- The entries that pairs amount to: of two with one key the last value counts, in the first place.
-/
def ofPairs (pairs : List (RawText × Value)) : Entries :=
  pairs.foldl (fun entries pair => Entries.insert pair.1 pair.2 entries) []

/-- A key that has been set has the value it was set to. -/
theorem find?_insert_self (key : String) (value : Value) (entries : Entries) :
    (entries.insert (.text key) value).find? key = some value := by
  induction entries with
  | nil => simp [Entries.insert, Entries.find?]
  | cons entry rest ih =>
    obtain ⟨k, v⟩ := entry
    by_cases h : k = .text key
    · simp [Entries.insert, Entries.find?, h]
    · simpa [Entries.insert, Entries.find?, h] using ih

/-- Setting a key leaves the others as they are. -/
theorem find?_insert_of_ne {key other : String} (value : Value) (entries : Entries)
    (h : other ≠ key) :
    (entries.insert (.text key) value).find? other = entries.find? other := by
  induction entries with
  | nil => simp [Entries.insert, Entries.find?, Ne.symm h]
  | cons entry rest ih =>
    obtain ⟨k, v⟩ := entry
    by_cases hk : k = .text key
    · subst hk
      simp [Entries.insert, Entries.find?, Ne.symm h]
    · by_cases ho : k = .text other
      · subst ho
        simp [Entries.insert, Entries.find?, hk]
      · simpa [Entries.insert, Entries.find?, hk, ho] using ih

end Entries

/-- The value of a key of a map; other values have no keys. -/
def field? (v : Value) (key : String) : Option Value :=
  match v with
  | .map entries => Entries.find? entries key
  | _ => none

end Value

end IntentGateway
