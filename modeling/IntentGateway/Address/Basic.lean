import IntentGateway.Address.Keccak
import IntentGateway.Failure

/-! # Account addresses

An address is forty hexadecimal digits. Of its spellings, which differ in letter case, in the marker
`0x` and in blanks around it, one is canonical: with the marker and with each letter in the case
that the hash of the lower-case digits gives it.
-/

namespace IntentGateway.Address

/-- The number of digits of an address. -/
def digitCount : Nat := 40

/-- The digits of a spelling, as they stand there. -/
def digits? (spelling : List Char) : Option (List Char) :=
  let digits := Text.dropHexMarker (Text.strip spelling)
  if digits.length = digitCount && digits.all (Text.hexValue? · |>.isSome) then some digits
  else none

/-- The half byte of a hash at a position. -/
def halfByte (hash : List UInt8) (i : Nat) : Nat :=
  let byte := (hash.getD (i / 2) 0).toNat
  if i % 2 = 0 then byte / 16 else byte % 16

/-- A letter in the case that its half byte of the hash asks for. The hash matters to letters only,
and is computed when the first one comes. -/
def caseOf (hash : Thunk (List UInt8)) (i : Nat) (c : Char) : Char :=
  if c.isDigit then c
  else if 8 ≤ halfByte hash.get i then c.toUpper
  else c

/-- Digits in the letter case of the canonical spelling. -/
def checksummed (digits : List Char) : List Char :=
  let lower := digits.map Char.toLower
  lower.mapIdx (caseOf (Thunk.mk fun _ => Keccak.hash (Marker.asciiBytes lower)))

/-- The canonical spelling of the address that a text spells. -/
def canonical? (spelling : String) : Option String :=
  (digits? spelling.toList).map fun digits =>
    String.ofList ('0' :: 'x' :: checksummed digits)

/-- Takes an address in any spelling. The field that it was given in is named in refusals. -/
def normalize [Nesting] (field : String) (value : Value) : Except Failure String :=
  match value.raw? with
  | some raw =>
    match raw.text?.bind canonical? with
    | some address => .ok address
    | none =>
      .error (.worded .invalidAddress (field ++ " is not a valid address") [(field, value)])
  | none => do
    .error (.worded .invalidAddress (field ++ " must be a string")
      [(field, .str (← value.shown))])

end IntentGateway.Address
