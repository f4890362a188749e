import IntentGateway.Failure

/-! # Columns of amounts

An amount of 256 bits fits no integer column. It is kept in a numeric column of 78 digits where the
database has one, and as a decimal text elsewhere; either way it is read back without loss.
-/

namespace IntentGateway.Amount

/-- The two ways to keep an amount. -/
inductive Column where
  /-- As a decimal text. -/
  | text
  /-- As a number of 78 digits. -/
  | numeric
  deriving Repr, DecidableEq

/-- What a column holds. -/
inductive Cell where
  | null
  | text (digits : String)
  | numeric (n : Int)
  deriving Repr, DecidableEq

/-- The declaration of a column. -/
def Column.declaration : Column → String
  | .text => "VARCHAR(78)"
  | .numeric => "NUMERIC(78, 0)"

/-- What a column holds of an amount. Only as text it can be too large. -/
def Column.bind (column : Column) (amount : Value) : Except Failure Cell :=
  match amount with
  | .null => .ok .null
  | v =>
    match v.toInteger with
    | .error e => .error (.conversion e)
    | .ok n =>
      match column with
      | .numeric => .ok (.numeric n)
      | .text =>
        match Numeral.decimal n with
        | .ok digits => .ok (.text digits)
        | .error e => .error (.numeral e)

/-- The amount that a cell holds. -/
def Cell.read : Cell → Except Failure (Option Int)
  | .null => .ok none
  | .numeric n => .ok (some n)
  | .text digits =>
    match Numeral.read 10 digits.toList with
    | .ok n => .ok (some n)
    | .error e => .error (.numeral e)

end IntentGateway.Amount
