/-! # Raw texts

A text is a sequence of characters. What arrives as JSON may hold a surrogate outside a pair as
well: a code point that is no character. A sequence with such a code point in it is kept as it came,
but it is no text, and nothing that travels in UTF-8 can hold it.
-/

namespace IntentGateway

namespace Text

/-- A code point: a character, or a surrogate by its place among the surrogates. -/
inductive Point where
  | char (c : Char)
  | surrogate (place : Fin 0x800)
  deriving Repr, DecidableEq

namespace Point

/-- The first surrogate. -/
def firstSurrogate : Nat := 0xD800

/-- The number of a code point. -/
def toNat : Point → Nat
  | .char c => c.toNat
  | .surrogate place => firstSurrogate + place.val

/-- The code point of a number below `0x110000`. -/
def ofNat (n : Nat) : Point :=
  if h : firstSurrogate ≤ n ∧ n - firstSurrogate < 0x800 then
    .surrogate ⟨n - firstSurrogate, h.2⟩
  else .char (Char.ofNat n)

/-- The character that a code point is. -/
def char? : Point → Option Char
  | .char c => some c
  | .surrogate _ => none

/-- The character that is read where there is none. -/
def replacement : Char := '\uFFFD'

/-- The character that a code point is, or the replacement character. -/
def charOrReplacement (point : Point) : Char :=
  point.char?.getD replacement

end Point

/-- The code points of a text. -/
def pointsOf (text : List Char) : List Point :=
  text.map .char

/-- All code points of a text are characters. -/
theorem mapM_char?_pointsOf (text : List Char) : (pointsOf text).mapM Point.char? = some text := by
  induction text with
  | nil => rfl
  | cons c text ih =>
    simp only [pointsOf, List.map_cons, List.mapM_cons] at ih ⊢
    simp [Point.char?, ih]

end Text

/-- A text, or a sequence of code points that is none because of the surrogates in it. -/
inductive RawText where
  | text (s : String)
  | illFormed (points : List Text.Point)
  deriving Repr, DecidableEq, Inhabited

namespace RawText

instance : Coe String RawText where
  coe := .text

/-- The text that code points amount to, if they are one. -/
def ofPoints (points : List Text.Point) : RawText :=
  match points.mapM Text.Point.char? with
  | some characters => .text (String.ofList characters)
  | none => .illFormed points

/-- The code points of a text are that text. -/
theorem ofPoints_pointsOf (characters : List Char) :
    ofPoints (Text.pointsOf characters) = .text (String.ofList characters) := by
  simp [ofPoints, Text.mapM_char?_pointsOf]

/-- The code points. -/
def points : RawText → List Text.Point
  | .text s => Text.pointsOf s.toList
  | .illFormed points => points

/-- The characters, with a replacement character for each surrogate. -/
def chars : RawText → List Char
  | .text s => s.toList
  | .illFormed points => points.map Text.Point.charOrReplacement

/-- Whether there are no code points. -/
def isEmpty : RawText → Bool
  | .text s => s.isEmpty
  | .illFormed points => points.isEmpty

/-- The text, if it is one. -/
def text? : RawText → Option String
  | .text s => some s
  | .illFormed _ => none

instance : Append RawText where
  append
    | .text s, .text t => .text (s ++ t)
    | a, b => .illFormed (a.points ++ b.points)

end RawText

end IntentGateway
