import IntentGateway.Text.Blank

/-! # Hexadecimal digits and bytes

Bytes are written as pairs of lower-case digits, and read from pairs of digits of either case
between which ASCII white space may stand.
-/

namespace IntentGateway.Text

/-- The value of a hexadecimal digit of either case. -/
def hexValue? (c : Char) : Option Nat :=
  if '0' ≤ c ∧ c ≤ '9' then some (c.toNat - '0'.toNat)
  else if 'a' ≤ c ∧ c ≤ 'f' then some (c.toNat - 'a'.toNat + 10)
  else if 'A' ≤ c ∧ c ≤ 'F' then some (c.toNat - 'A'.toNat + 10)
  else none

/-- A number in lower-case hexadecimal digits, with at least the given count of them. -/
def hexPadded (width n : Nat) : List Char :=
  let digits := Nat.toDigits 16 n
  List.replicate (width - digits.length) '0' ++ digits

/-- The two digits of each byte in turn. -/
def hexOfBytes (bytes : List UInt8) : List Char :=
  bytes.flatMap fun byte => [Nat.digitChar (byte.toNat / 16), Nat.digitChar (byte.toNat % 16)]

/-- The bytes that a text of digit pairs denotes. White space stands between pairs, not in one. -/
def bytesOfHex? : List Char → Option (List UInt8)
  | [] => some []
  | [c] => if isAsciiSpace c then some [] else none
  | c :: d :: rest =>
    if isAsciiSpace c then bytesOfHex? (d :: rest)
    else
      match hexValue? c, hexValue? d with
      | some high, some low => (bytesOfHex? rest).map (UInt8.ofNat (16 * high + low) :: ·)
      | _, _ => none

/-- The text without one leading marker of hexadecimal digits, `0x` or `0X`. -/
def dropHexMarker : List Char → List Char
  | '0' :: 'x' :: rest => rest
  | '0' :: 'X' :: rest => rest
  | text => text

/-- Whether the text begins with the marker of hexadecimal digits. -/
def hasHexMarker : List Char → Bool
  | '0' :: 'x' :: _ => true
  | '0' :: 'X' :: _ => true
  | _ => false

end IntentGateway.Text
