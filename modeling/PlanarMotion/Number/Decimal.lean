import PlanarMotion.Number.Binary64

/-!
# Reading Decimals

A decimal numeral is a coefficient times a power of ten, and the double it
denotes is the one nearest to that exact value. The quotient is formed exactly
and rounded once, so there is no double rounding to reason about.

Powers of ten with an exponent far outside the range of doubles are never
computed: a decimal too large for any double is infinite and one too small for
the least is zero, which the coefficient's bit length decides. Ten lies between
`2^3` and `2^4`, so both tests are safe.

## Main definitions

* `Decimal`: A coefficient and a power of ten.
* `Decimal.word`: The magnitude word nearest to a decimal.
* `Decimal.toFloat`: The signed double nearest to a decimal.
-/

namespace PlanarMotion

namespace Number

/-- The unsigned value `coefficient * 10^exponent`. -/
structure Decimal where
  /-- The digits, read as one number. -/
  coefficient : Nat
  /-- The power of ten. -/
  exponent : Int
  deriving DecidableEq, Repr

/-- The magnitude word nearest to a decimal. -/
def Decimal.word (d : Decimal) : Nat :=
  let bits := d.coefficient.log2
  let shift := d.exponent.natAbs
  if d.coefficient = 0 then 0
  else if 0 ≤ d.exponent then
    -- At least `2^bits * 8^shift`, so past the overflow threshold.
    if 1024 ≤ bits + 3 * shift then infinityWord
    else wordOfRatio (d.coefficient * Nat.pow 10 shift) 1
  else
    -- Less than `2^(bits + 1) / 8^shift`, so below half of the least double.
    if bits + 1081 < 3 * shift then 0
    else wordOfRatio d.coefficient (Nat.pow 10 shift)

/-- The double nearest to a decimal with a sign. -/
def Decimal.toFloat (negative : Bool) (d : Decimal) : Float :=
  floatOfWord negative d.word

end Number

end PlanarMotion
