import IntentGateway.Text.Raw

/-! # Encodings of texts

Texts travel as bytes in UTF-8. A text that arrives may also be encoded in UTF-16 or UTF-32; which
of them it is shows in a byte order mark, or else in which of the first bytes are zero, since the
first characters of the texts read here are ASCII. A surrogate outside a pair does not make bytes
unreadable: it is a code point of what they denote.
-/

namespace IntentGateway.Text

/-! ## UTF-8 -/

/-- The bytes of a text in UTF-8. -/
def utf8Bytes (text : List Char) : List UInt8 :=
  text.flatMap String.utf8EncodeChar

/-- The text that bytes denote in UTF-8, as the standard has it. -/
def ofStrictUtf8? (bytes : List UInt8) : Option (List Char) :=
  (String.fromUTF8? bytes.toByteArray).map String.toList

/-- The standard reads back what is written. -/
theorem ofStrictUtf8?_utf8Bytes (text : List Char) :
    ofStrictUtf8? (utf8Bytes text) = some text := by
  have valid : ((text.flatMap String.utf8EncodeChar).toByteArray).IsValidUTF8 := ⟨text, rfl⟩
  have same : String.fromUTF8 _ valid = String.ofList text := rfl
  simp [ofStrictUtf8?, utf8Bytes, String.fromUTF8?, valid, same]

/-- The surrogate that three bytes encode as if it were a character. -/
def surrogateOfBytes? (a b c : UInt8) : Option Point :=
  if a = 0xED ∧ 0xA0 ≤ b ∧ b < 0xC0 ∧ 0x80 ≤ c ∧ c < 0xC0 then
    some (.ofNat (0xD000 + 0x40 * (b.toNat - 0x80) + (c.toNat - 0x80)))
  else none

/-- The code points of bytes in which surrogates may be encoded. The bytes behind the last
surrogate, which are `held` backwards, are read as the standard has it. -/
def ofLooseUtf8? (held : List UInt8) : List UInt8 → Option (List Point)
  | a :: b :: c :: bytes =>
    match surrogateOfBytes? a b c with
    | none => ofLooseUtf8? (a :: held) (b :: c :: bytes)
    | some point =>
      match ofStrictUtf8? held.reverse, ofLooseUtf8? [] bytes with
      | some text, some points => some (pointsOf text ++ point :: points)
      | _, _ => none
  | bytes => (ofStrictUtf8? (held.reverse ++ bytes)).map pointsOf

/-- The code points that bytes denote in UTF-8. -/
def ofUtf8? (bytes : List UInt8) : Option (List Point) :=
  ((ofStrictUtf8? bytes).map pointsOf).or (ofLooseUtf8? [] bytes)

/-- A text is read back from its bytes. -/
theorem ofUtf8?_utf8Bytes (text : List Char) :
    ofUtf8? (utf8Bytes text) = some (pointsOf text) := by
  simp [ofUtf8?, ofStrictUtf8?_utf8Bytes]

/-! ## UTF-16 and UTF-32 -/

/-- The order in which the bytes of a unit stand. -/
inductive ByteOrder where
  | bigEndian
  | littleEndian
  deriving Repr, DecidableEq

/-- The number that bytes denote in an order. -/
def ByteOrder.number (order : ByteOrder) (bytes : List UInt8) : Nat :=
  let mostFirst := match order with
    | .bigEndian => bytes
    | .littleEndian => bytes.reverse
  mostFirst.foldl (fun n byte => 256 * n + byte.toNat) 0

/-- The 16-bit units of bytes, unless a byte is left over. -/
def units16? (order : ByteOrder) : List UInt8 → Option (List Nat)
  | [] => some []
  | [_] => none
  | a :: b :: rest => (units16? order rest).map (order.number [a, b] :: ·)

/-- The 32-bit units of bytes, unless bytes are left over. -/
def units32? (order : ByteOrder) : List UInt8 → Option (List Nat)
  | [] => some []
  | a :: b :: c :: d :: rest => (units32? order rest).map (order.number [a, b, c, d] :: ·)
  | _ => none

/-- Whether a unit is the first one of a surrogate pair. -/
def isHighSurrogate (u : Nat) : Bool :=
  decide (0xD800 ≤ u) && decide (u < 0xDC00)

/-- Whether a unit is the second one of a surrogate pair. -/
def isLowSurrogate (u : Nat) : Bool :=
  decide (0xDC00 ≤ u) && decide (u < 0xE000)

/-- The code point that a surrogate pair denotes. -/
def pairPoint (high low : Nat) : Nat :=
  0x10000 + 0x400 * (high - 0xD800) + (low - 0xDC00)

/-- The code points of 16-bit units. -/
def pointsOfUnits16 : List Nat → List Point
  | [] => []
  | [u] => [.ofNat u]
  | u :: v :: rest =>
    if isHighSurrogate u && isLowSurrogate v then
      .ofNat (pairPoint u v) :: pointsOfUnits16 rest
    else .ofNat u :: pointsOfUnits16 (v :: rest)

/-- The code point of a 32-bit unit, unless it is out of range. -/
def pointOfUnit32? (u : Nat) : Option Point :=
  if u < 0x110000 then some (.ofNat u) else none

/-! ## Detection -/

/-- The forms in which a text may arrive. -/
inductive Encoding where
  | utf8
  | utf16 (order : ByteOrder)
  | utf32 (order : ByteOrder)
  deriving Repr, DecidableEq

/-- The code points of bytes in an encoding. -/
def Encoding.decode? : Encoding → List UInt8 → Option (List Point)
  | .utf8, bytes => ofUtf8? bytes
  | .utf16 order, bytes => (units16? order bytes).map pointsOfUnits16
  | .utf32 order, bytes => (units32? order bytes).bind fun units => units.mapM pointOfUnit32?

/-- The encoding that the zeros among the first bytes show. -/
def encodingByZeros : List UInt8 → Encoding
  | 0 :: 0 :: _ :: _ :: _ => .utf32 .bigEndian
  | 0 :: _ :: _ :: _ :: _ => .utf16 .bigEndian
  | _ :: 0 :: 0 :: 0 :: _ => .utf32 .littleEndian
  | _ :: 0 :: _ :: _ :: _ => .utf16 .littleEndian
  | [0, _] => .utf16 .bigEndian
  | [_, 0] => .utf16 .littleEndian
  | _ => .utf8

/-- The encoding of bytes, and the bytes behind the byte order mark if there is one. -/
def detectEncoding : List UInt8 → Encoding × List UInt8
  | 0 :: 0 :: 0xFE :: 0xFF :: rest => (.utf32 .bigEndian, rest)
  | 0xFF :: 0xFE :: 0 :: 0 :: rest => (.utf32 .littleEndian, rest)
  | 0xFE :: 0xFF :: rest => (.utf16 .bigEndian, rest)
  | 0xFF :: 0xFE :: rest => (.utf16 .littleEndian, rest)
  | 0xEF :: 0xBB :: 0xBF :: rest => (.utf8, rest)
  | bytes => (encodingByZeros bytes, bytes)

/-- The code points of bytes whose encoding is detected. -/
def decode? (bytes : List UInt8) : Option (List Point) :=
  let (encoding, rest) := detectEncoding bytes
  encoding.decode? rest

end IntentGateway.Text
