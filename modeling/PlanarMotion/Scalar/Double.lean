import PlanarMotion.Number.Binary64
import PlanarMotion.Scalar.Basic

/-!
# Doubles as Scalars

The operations that doubles lack, and doubles as an instance of `Scalar`.

The length of a hypotenuse must not overflow or underflow on the way when the result
is in range. Scaling both legs by a power of two is exact, so three cases are enough.
An infinite leg makes an infinite hypotenuse whatever the other one is.

The remainder of two doubles is itself a double. It is computed exactly on counts of
units; only the correction to the divisor's sign rounds.

## Main definitions

* `Double.hypot`: The length of the hypotenuse over two legs.
* `Double.modulo`: The remainder with the sign of the divisor.
-/

namespace PlanarMotion

namespace Double

open PlanarMotion.Number

/-- The double zero. -/
def zero : Float :=
  0.0

/-- The infinite double. -/
def infinity : Float :=
  1.0 / 0.0

/-- The double that is not a number. -/
def nan : Float :=
  0.0 / 0.0

/-- Lengths beyond `2^500` are scaled down and those below `2^-500` up, by `2^600`. -/
def hypotScale : Float :=
  floatOfNat (Nat.pow 2 600)

/-- The length of the hypotenuse over two legs, without overflow on the way. -/
def hypot (x y : Float) : Float :=
  let a := x.abs
  let b := y.abs
  let longest := if a < b then b else a
  if a.isInf || b.isInf then infinity
  else if floatOfNat (Nat.pow 2 500) < longest then
    let p := a / hypotScale
    let q := b / hypotScale
    (p * p + q * q).sqrt * hypotScale
  else if longest < floatOfRatio false 1 (Nat.pow 2 500) then
    let p := a * hypotScale
    let q := b * hypotScale
    (p * p + q * q).sqrt / hypotScale
  else (a * a + b * b).sqrt

/-- The remainder of a division that cuts the quotient toward zero. It has the sign of
    the dividend and is exact. -/
def remainder (x y : Float) : Float :=
  let dividend := Binary64.ofFloat x
  let divisor := Binary64.ofFloat y
  match dividend.magnitude, divisor.magnitude with
  | .finite m, .finite n =>
    if n = 0 then nan else floatOfRatio dividend.negative (m % n) unitsPerOne
  | .finite _, .infinite => x
  | _, _ => nan

/-- The remainder that has the sign of the divisor. -/
def modulo (x y : Float) : Float :=
  let r := remainder x y
  if r == zero then (if y < zero then -zero else zero)
  else if (y < zero) = (r < zero) then r
  -- The remainder of the other sign is one divisor away.
  else r + y

end Double

instance : Scalar Float where
  zero := Double.zero
  one := 1.0
  natCast := Number.floatOfNat
  neg := Float.neg
  add := Float.add
  sub := Float.sub
  mul := Float.mul
  div := Float.div
  beq := Float.beq
  lt := fun a b => a.lt b = true
  le := fun a b => a.le b = true
  decideLt := fun a b => inferInstanceAs (Decidable (a.lt b = true))
  decideLe := fun a b => inferInstanceAs (Decidable (a.le b = true))
  abs := Float.abs
  hypot := Double.hypot
  modulo := Double.modulo
  pi := Number.floatOfRatio false 884279719003555 (Nat.pow 2 48)
  sin := Float.sin
  cos := Float.cos
  asin := Float.asin
  atan2 := Float.atan2
  infinity := Double.infinity
  isInfinite := Float.isInf

end PlanarMotion
