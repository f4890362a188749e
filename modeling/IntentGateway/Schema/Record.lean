import IntentGateway.Schema.Scalar

/-! # Decoders of records

A record is a map. Each of its fields has a key on the wire and a name of its own; it may be given
under either, and the key wins. Keys that belong to no field are ignored.
-/

namespace IntentGateway.Schema

/-- How a field is found: by its key on the wire, else by its name. -/
structure Field where
  key : String
  name : String := key
  deriving Repr

/-- A field whose key on the wire is its name. -/
instance : Coe String Field where
  coe key := { key := key }

/-- The given value of a field and the key or name that it was given under. -/
def Field.find? (field : Field) (record : Value.Entries) : Option (String × Value) :=
  match record.find? field.key with
  | some v => some (field.key, v)
  | none => (record.find? field.name).map fun v => (field.name, v)

/-- A field that has to be given. -/
def required {α : Type} (record : Value.Entries) (field : Field) (decode : Decoder α) :
    Checked α :=
  match field.find? record with
  | some (used, v) => (decode v).under (.key used)
  | none => .invalid [⟨.missing, [.key field.key], .map record⟩]

/-- A field with a value for when it is not given. -/
def defaulted {α : Type} (record : Value.Entries) (field : Field) (default : α)
    (decode : Decoder α) : Checked α :=
  match field.find? record with
  | some (used, v) => (decode v).under (.key used)
  | none => .valid default

/-- A field that may be null or missing. -/
def nullable {α : Type} (record : Value.Entries) (field : Field) (decode : Decoder α) :
    Checked (Option α) :=
  defaulted record field none (optional decode)

/-- A record with a name; other values than maps are refused by that name. -/
def record {α : Type} (name : String) (fields : Value.Entries → Checked α) : Decoder α
  | .map entries => fields entries
  | v => .fault (.notRecord name) v

end IntentGateway.Schema
