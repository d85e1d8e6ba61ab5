/-!
# Scalars

The geometry of this library is written once, over any type of numbers with the
operations of `Scalar`. Programs run over doubles; statements about exact motion are
about the same definitions over another such type. So nothing here assumes that
addition is associative or that a number equals itself: only the operations are
given, and each definition fixes the order in which it applies them.

Literals are written as natural numbers and their quotients, which every scalar type
has.

## Main definitions

* `Scalar`: The operations on numbers.
* `lesser`, `greater`, `clamp`: Choosing by comparison.
* `lerp`: Linear interpolation.
* `wrapAngle`: The same angle within half a turn of zero.
-/

namespace PlanarMotion

/-- Numbers to compute geometry with. -/
class Scalar (α : Type) extends Zero α, One α, NatCast α, Neg α, Add α, Sub α, Mul α, Div α,
    BEq α, LT α, LE α where
  /-- Strict comparison is decidable. -/
  decideLt : DecidableRel (α := α) (· < ·)
  /-- Comparison is decidable. -/
  decideLe : DecidableRel (α := α) (· ≤ ·)
  /-- The absolute value. -/
  abs : α → α
  /-- The length of the hypotenuse over two legs. -/
  hypot : α → α → α
  /-- The remainder that has the sign of the divisor. -/
  modulo : α → α → α
  /-- Half of a full turn, in radians. -/
  pi : α
  /-- The sine of an angle. -/
  sin : α → α
  /-- The cosine of an angle. -/
  cos : α → α
  /-- The angle in the right half plane with a given sine. -/
  asin : α → α
  /-- The angle of the point with ordinate `y` and abscissa `x`. -/
  atan2 : α → α → α
  /-- Stands for a vertical slope. -/
  infinity : α
  /-- Whether a number is infinite, of either sign. Infinite angles have no sine. -/
  isInfinite : α → Bool

namespace Scalar

variable {α : Type} [Scalar α]

instance : DecidableRel (α := α) (· < ·) := Scalar.decideLt

instance : DecidableRel (α := α) (· ≤ ·) := Scalar.decideLe

/-- A natural number as a scalar. -/
def ofNat (n : Nat) : α :=
  (n : α)

/-- The number two. -/
def two : α :=
  ofNat 2

/-- One half. -/
def half : α :=
  1 / two

/-- A full turn, in radians. -/
def turn : α :=
  two * pi

/-- A quarter turn, in radians. -/
def quarterTurn : α :=
  pi / two

/-- The second number if it is less, else the first. -/
def lesser (a b : α) : α :=
  if b < a then b else a

/-- The second number if it is greater, else the first. -/
def greater (a b : α) : α :=
  if a < b then b else a

/-- The nearest number within an interval. What compares with nothing goes to the upper
    end. -/
def clamp (value low high : α) : α :=
  greater low (lesser high value)

/-- The number a fraction `t` of the way from `a` to `b`. -/
def lerp (a b t : α) : α :=
  a + (b - a) * t

/-- The same angle, more than half a turn below zero and at most half a turn above. -/
def wrapAngle (angle : α) : α :=
  let wrapped := modulo angle turn
  if pi < wrapped then wrapped - turn else wrapped

end Scalar

end PlanarMotion
