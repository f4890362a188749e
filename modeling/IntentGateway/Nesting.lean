/-! # How deep values may be nested

The interpreter that the program runs on recurses once for each list or map that it goes into while
it reads a document, writes one, or shows a value in a message, and gives up when its stack is full.
How many may be nested where it does so depends on what is on the stack already, so these numbers
are parameters of all that reads, writes or shows.
-/

namespace IntentGateway

/-- What other values may be nested in. -/
inductive Container where
  | list
  | map
  deriving Repr, DecidableEq

/-- The name of a container in messages. -/
def Container.name : Container → String
  | .list => "array"
  | .map => "object"

/-- The room on the stack. There is room for the documents that the program makes itself, which take
less than eight levels. Documents are read under more calls than parts of them are shown. -/
class Nesting where
  /-- How many lists and maps may be nested in a document that is read. -/
  read : Nat
  /-- How many lists and maps may be nested in a document that is written. -/
  written : Nat
  /-- How many values may be nested in one that is shown, the innermost one counted too. -/
  shown : Nat
  eight_le_read : 8 ≤ read
  eight_le_written : 8 ≤ written
  read_lt_shown : read < shown

namespace Nesting

theorem exists_written [Nesting] : ∃ spare, written = spare + 8 :=
  Nat.exists_eq_add_of_le' eight_le_written

theorem shown_pos [Nesting] : 0 < shown :=
  Nat.zero_lt_of_lt read_lt_shown

/-- Where values are nested too deep. -/
inductive Excess where
  /-- Where such a container would be read. -/
  | reading (container : Container)
  | writing
  | showing
  deriving Repr, DecidableEq

/-- The words of an excess. -/
def Excess.message : Excess → String
  | .reading container =>
    "maximum recursion depth exceeded while decoding a JSON " ++ container.name
      ++ " from a unicode string"
  | .writing => "maximum recursion depth exceeded while encoding a JSON object"
  | .showing => "maximum recursion depth exceeded while getting the repr of an object"

/-- The room where the program is called with fifty calls on the stack. -/
instance standard : Nesting where
  read := 950
  written := 945
  shown := 952
  eight_le_read := by decide
  eight_le_written := by decide
  read_lt_shown := by decide

end Nesting

end IntentGateway
