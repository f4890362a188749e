/-! # Binary floating-point numbers of 64 bits

A finite number is a sign and a significand times a power of two. Every operation computes its exact
rational result and rounds once, to the nearest number, a tie going to the even significand.
-/

namespace IntentGateway

/-- A floating-point number. A finite one has a significand below 2^53 and an exponent from -1074 to
971; the significand is at least 2^52 unless the exponent is -1074. -/
inductive Binary64 where
  | finite (negative : Bool) (significand : Nat) (exponent : Int)
  | infinite (negative : Bool)
  | nan
  deriving Repr, DecidableEq, Inhabited

namespace Binary64

/-- What significands are less than: 2^53. -/
def significandLimit : Nat := 0x20000000000000

/-- The least exponent of a significand. -/
def minExponent : Int := -1074

/-- The greatest exponent of a significand. -/
def maxExponent : Int := 971

/-- Zero of either sign. -/
def zero (negative : Bool) : Binary64 :=
  .finite negative 0 minExponent

/-! ## Rounding -/

/-- The integer nearest to a quotient, the even one of two equally near. -/
def roundQuotient (numerator denominator : Nat) : Nat :=
  let whole := numerator / denominator
  match compare (2 * (numerator % denominator)) denominator with
  | .lt => whole
  | .gt => whole + 1
  | .eq => if whole % 2 = 0 then whole else whole + 1

/-- The integer nearest to a quotient divided by a power of two. -/
def roundScaled (numerator denominator : Nat) (exponent : Int) : Nat :=
  roundQuotient (numerator <<< (-exponent).toNat) (denominator <<< exponent.toNat)

/-- The exponent that gives a quotient a significand of 53 bits, or the least exponent. -/
def exponentFor (numerator denominator : Nat) : Int :=
  let estimate : Int := (numerator.log2 : Int) - denominator.log2 - 53
  let exact :=
    if numerator <<< (-estimate).toNat < (denominator <<< estimate.toNat) * significandLimit then
      estimate
    else estimate + 1
  max exact minExponent

/-- The number with a sign and a significand of at most 2^53, or the infinity beyond the range. -/
def assemble (negative : Bool) (significand : Nat) (exponent : Int) : Binary64 :=
  let carried := significand = significandLimit
  let significand' := if carried then significandLimit / 2 else significand
  let exponent' := if carried then exponent + 1 else exponent
  if maxExponent < exponent' then .infinite negative else .finite negative significand' exponent'

/-- The number nearest to a quotient of naturals with a sign. -/
def roundPositive (negative : Bool) (numerator denominator : Nat) : Binary64 :=
  if numerator = 0 then zero negative
  else
    let exponent := exponentFor numerator denominator
    assemble negative (roundScaled numerator denominator exponent) exponent

/-- The number nearest to a rational; zero has the sign asked for. -/
def round (zeroNegative : Bool) (q : Rat) : Binary64 :=
  roundPositive (if q.num = 0 then zeroNegative else decide (q.num < 0)) q.num.natAbs q.den

/-- The number nearest to a rational. -/
def ofRat (q : Rat) : Binary64 :=
  round false q

/-- The number nearest to digits times a power of ten. Exponents far outside the range are settled
without computing the power. -/
def ofDecimal (negative : Bool) (digits : Nat) (exponent : Int) : Binary64 :=
  let size : Int := digits.log2 / 3 + 1
  if digits = 0 ∨ size + exponent < -400 then zero negative
  else if 400 < exponent then .infinite negative
  else roundPositive negative (digits * Nat.pow 10 exponent.toNat)
    (Nat.pow 10 (-exponent).toNat)

/-! ## Values -/

/-- The rational that a finite number is. -/
def toRat? : Binary64 → Option Rat
  | .finite negative significand exponent =>
    let magnitude : Rat := (significand : Rat) * (2 : Rat) ^ exponent
    some (if negative then -magnitude else magnitude)
  | _ => none

/-- The integer that a number is, if it is one. -/
def toInt? (x : Binary64) : Option Int :=
  match x.toRat? with
  | some q => if q.den = 1 then some q.num else none
  | none => none

/-- Whether the number is not zero; what is no number counts. -/
def isTruthy : Binary64 → Bool
  | .finite _ significand _ => significand != 0
  | _ => true

/-! ## Arithmetic -/

/-- Negation changes the sign, also of zero. -/
def neg : Binary64 → Binary64
  | .finite negative significand exponent => .finite (!negative) significand exponent
  | .infinite negative => .infinite (!negative)
  | .nan => .nan

/-- A sum of zero is negative only if both summands are. -/
def add (x y : Binary64) : Binary64 :=
  match x, y with
  | .nan, _ => .nan
  | _, .nan => .nan
  | .infinite a, .infinite b => if a = b then .infinite a else .nan
  | .infinite a, _ => .infinite a
  | _, .infinite b => .infinite b
  | .finite a _ _, .finite b _ _ =>
    match x.toRat?, y.toRat? with
    | some p, some q => round (a && b) (p + q)
    | _, _ => .nan

/-- The difference is the sum with the negation. -/
def sub (x y : Binary64) : Binary64 :=
  x.add y.neg

/-- The sign of a product is negative if the signs differ; zero times an infinity is no number. -/
def mul (x y : Binary64) : Binary64 :=
  match x, y with
  | .nan, _ => .nan
  | _, .nan => .nan
  | .infinite a, .infinite b => .infinite (a ^^ b)
  | .infinite a, .finite b m _ => if m = 0 then .nan else .infinite (a ^^ b)
  | .finite a m _, .infinite b => if m = 0 then .nan else .infinite (a ^^ b)
  | .finite a _ _, .finite b _ _ =>
    match x.toRat?, y.toRat? with
    | some p, some q => round (a ^^ b) (p * q)
    | _, _ => .nan

/-- Whether one number is less than another; nothing is less or greater than no number. -/
def lt (x y : Binary64) : Bool :=
  match x, y with
  | .nan, _ => false
  | _, .nan => false
  | .infinite a, .infinite b => a && !b
  | .infinite a, .finite .. => a
  | .finite .., .infinite b => !b
  | .finite .., .finite .. =>
    match x.toRat?, y.toRat? with
    | some p, some q => decide (p < q)
    | _, _ => false

/-- Whether one number is at most another. -/
def le (x y : Binary64) : Bool :=
  match x, y with
  | .nan, _ => false
  | _, .nan => false
  | _, _ => !y.lt x

end Binary64

end IntentGateway
