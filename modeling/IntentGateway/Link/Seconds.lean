import IntentGateway.Binary64.Basic
import IntentGateway.Failure

/-! # Delays

Delays and times are counted in seconds. A program counts them in floating-point numbers, an ideal
one in rationals; the delay before another attempt is the same expression in both. It doubles with
each attempt up to a limit, and may be spread by a factor between a half and one and a half.
-/

namespace IntentGateway

/-- Numbers of seconds, with the operations that delays are made of. -/
class Seconds (τ : Type) where
  ofRat : Rat → τ
  /-- A power of two. Its exponent is below 1024. -/
  powerOfTwo : Int → τ
  add : τ → τ → τ
  sub : τ → τ → τ
  mul : τ → τ → τ
  lt : τ → τ → Bool
  le : τ → τ → Bool

instance : Seconds Rat where
  ofRat q := q
  powerOfTwo n := (2 : Rat) ^ n
  add := (· + ·)
  sub := (· - ·)
  mul := (· * ·)
  lt a b := decide (a < b)
  le a b := decide (a ≤ b)

instance : Seconds Binary64 where
  ofRat := Binary64.ofRat
  powerOfTwo n := Binary64.ofRat ((2 : Rat) ^ max n (-1100))
  add := Binary64.add
  sub := Binary64.sub
  mul := Binary64.mul
  lt := Binary64.lt
  le := Binary64.le

namespace Seconds

variable {τ : Type} [Seconds τ]

/-- The lesser of two; the first one unless the second is less. -/
def least (a b : τ) : τ :=
  if lt b a then b else a

end Seconds

namespace Backoff

variable {τ : Type} [Seconds τ]

/-- From this attempt on, the power of two is beyond the range of floating-point numbers. -/
def attemptLimit : Int := 1024

/-- The delay before an attempt, without spread. -/
def delay (attempt : Int) (base limit : τ) : Except Failure τ :=
  if attemptLimit ≤ attempt ∨ Binary64.ofRat attempt = .infinite true then .error .delayOverflow
  else .ok (Seconds.least (Seconds.mul base (Seconds.powerOfTwo attempt)) limit)

/-- A delay spread by a number drawn between zero and one. -/
def spread (delay drawn : τ) : τ :=
  Seconds.mul delay (Seconds.add (Seconds.ofRat (1 / 2)) drawn)

end Backoff

end IntentGateway
