import IntentGateway.Binary64.Basic
import IntentGateway.Numeral.Basic

/-! # Floating-point numbers as text

A finite number is written with the fewest digits that read back to it, the nearest such digits, and
of two equally near the even ones. Powers of ten from 1e-4 up to, not including, 1e16 are written
positionally with at least one digit behind the point, all others with an exponent of a sign and at
least two digits.
-/

namespace IntentGateway.Binary64

/-! ## Which digits -/

/-- Digits times a power of ten. -/
structure Decimal where
  digits : Nat
  exponent : Int
  deriving Repr, DecidableEq

/-- The rational that a decimal denotes. -/
def Decimal.toRat (d : Decimal) : Rat :=
  (d.digits : Rat) * (10 : Rat) ^ d.exponent

/-- Whether a decimal rounds to a number without a sign. -/
def readsAs (significand : Nat) (exponent : Int) (d : Decimal) : Bool :=
  ofRat d.toRat == .finite false significand exponent

/-- Raises an estimate of the number of integer digits until the rational is less than that power
of ten. -/
def raiseScale (q : Rat) : Nat → Int → Int
  | 0, scale => scale
  | steps + 1, scale =>
    if q < (10 : Rat) ^ scale then scale else raiseScale q steps (scale + 1)

/-- The least power of ten above a positive rational, from its length in bits. -/
def decimalScale (q : Rat) : Int :=
  let bits : Int := (q.num.natAbs.log2 : Int) - q.den.log2 - 1
  raiseScale q 4 (Int.fdiv (bits * 30103) 100000)

/-- The neighbours of a rational among the multiples of a power of ten, the nearer one first; of two
equally near the even one comes first. -/
def neighbours (q : Rat) (exponent : Int) : List Decimal :=
  let quotient := q / (10 : Rat) ^ exponent
  let below := quotient.floor.toNat
  let rest := quotient - below
  let belowFirst := rest < 1 / 2 || (rest == 1 / 2 && below % 2 == 0)
  if belowFirst then [⟨below, exponent⟩, ⟨below + 1, exponent⟩]
  else [⟨below + 1, exponent⟩, ⟨below, exponent⟩]

/-- The shortest decimal that reads back to a positive number, of at most seventeen digits; the
exact one if there were none. -/
def shortest (significand : Nat) (exponent : Int) : Decimal :=
  let q : Rat := (significand : Rat) * (2 : Rat) ^ exponent
  let scale := decimalScale q
  let candidates := (List.range 17).flatMap fun n => neighbours q (scale - (n + 1 : Nat))
  match candidates.find? (readsAs significand exponent) with
  | some d => d
  | none =>
    ⟨(significand <<< exponent.toNat) * Nat.pow 5 (-exponent).toNat, -((-exponent).toNat : Int)⟩

/-! ## How they are laid out -/

/-- The digits of a decimal without trailing zeros. -/
def significantDigits (d : Decimal) : List Char :=
  ((Nat.toDigits 10 d.digits).reverse.dropWhile (· = '0')).reverse

/-- Digits with the point behind the first `integerDigits` of them; zeros fill up. -/
def positional (digits : List Char) (integerDigits : Int) : List Char :=
  if integerDigits ≤ 0 then
    '0' :: '.' :: List.replicate (-integerDigits).toNat '0' ++ digits
  else
    let wholeLength := integerDigits.toNat
    let whole := digits.take wholeLength ++ List.replicate (wholeLength - digits.length) '0'
    let fraction := digits.drop wholeLength
    whole ++ '.' :: (if fraction.isEmpty then ['0'] else fraction)

/-- Digits with the point behind the first one, and the power of ten of that digit. -/
def scientific (digits : List Char) (power : Int) : List Char :=
  let mantissa := match digits with
    | first :: second :: rest => first :: '.' :: second :: rest
    | short => short
  let exponent := Nat.toDigits 10 power.natAbs
  let padded := List.replicate (2 - exponent.length) '0' ++ exponent
  mantissa ++ 'e' :: (if power < 0 then '-' else '+') :: padded

/-- A decimal in the layout of its size. -/
def layout (d : Decimal) : List Char :=
  let digits := significantDigits d
  let integerDigits : Int := (Nat.toDigits 10 d.digits).length + d.exponent
  if -4 < integerDigits ∧ integerDigits ≤ 16 then positional digits integerDigits
  else scientific digits (integerDigits - 1)

/-- The text of a number. -/
def toText : Binary64 → String
  | .nan => "nan"
  | .infinite negative => if negative then "-inf" else "inf"
  | .finite negative significand exponent =>
    let unsigned :=
      if significand = 0 then ['0', '.', '0'] else layout (shortest significand exponent)
    String.ofList (if negative then '-' :: unsigned else unsigned)

end IntentGateway.Binary64
