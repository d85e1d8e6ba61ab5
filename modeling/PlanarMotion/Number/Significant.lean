import PlanarMotion.Number.Binary64
import PlanarMotion.Number.Layout

/-!
# A Fixed Number of Significant Digits

A double rounded to a given number of significant digits, written either always in
scientific notation or, with the zeros at the end dropped, in whichever notation
suits its size.

## Main definitions

* `digitCount`: How many decimal digits a number has.
* `leadingExponent`: The exponent of the first digit of an exact value.
* `significant`: The rounded digits and the exponent of the first.
* `scientificText`: A double in scientific notation.
* `generalText`: A double in the shorter of the two notations, with no zeros at the end.
-/

namespace PlanarMotion

namespace Number

/-- The first of at most `fuel` numbers from `count` on whose power of ten is beyond `n`. -/
def digitCountFrom (n : Nat) : Nat → Nat → Nat
  | 0, count => count
  | fuel + 1, count => if n < Nat.pow 10 count then count else digitCountFrom n fuel (count + 1)

/-- How many decimal digits a positive number has. A binary digit is worth a little more
    than 1233/4096 decimal ones, so counting may start there. -/
def digitCount (n : Nat) : Nat :=
  digitCountFrom n (n.log2 + 1) (n.log2 * 1233 / 4096)

/-- The exponent `e` with `10^e ≤ v < 10^(e+1)`, for the value `v` of a positive count
    of units. The least double is above `10^-324`, so scaling by `10^324` leaves no
    value below one. -/
def leadingExponent (units : Nat) : Int :=
  digitCount (units * Nat.pow 10 324 / unitsPerOne) - 325

/-- The value of a count of units times a power of ten, as a quotient. -/
def scaledRatio (units : Nat) (power : Int) : Nat × Nat :=
  if 0 ≤ power then (units * Nat.pow 10 power.toNat, unitsPerOne)
  else (units, unitsPerOne * Nat.pow 10 power.natAbs)

/-- A count of units rounded to `count` significant digits: the digits as one number
    and the exponent of the first. Rounding up to the next power of ten moves the
    exponent. -/
def significant (count units : Nat) : Nat × Int :=
  if units = 0 then (0, 0)
  else
    let exponent := leadingExponent units
    let (num, den) := scaledRatio units (count - 1 - exponent)
    let rounded := roundDiv num den
    if rounded = Nat.pow 10 count then (Nat.pow 10 (count - 1), exponent + 1)
    else (rounded, exponent)

/-- A double in scientific notation with `count` significant digits. -/
def scientificText (count : Nat) (x : Float) : List Char :=
  let b := Binary64.ofFloat x
  match b.magnitude with
  | .nan => ['n', 'a', 'n']
  | .infinite => signed b.negative ['i', 'n', 'f']
  | .finite units =>
    let (rounded, exponent) := significant count units
    signed b.negative (scientific (padded count rounded) exponent)

/-- Positional from `10^-4` up to as many whole digits as there are significant ones. -/
def generalLayout (count : Nat) : Layout :=
  ⟨-4, count, []⟩

/-- A double with `count` significant digits and no zeros at the end. -/
def generalText (count : Nat) (x : Float) : List Char :=
  let b := Binary64.ofFloat x
  match b.magnitude with
  | .nan => ['n', 'a', 'n']
  | .infinite => signed b.negative ['i', 'n', 'f']
  | .finite units =>
    let (rounded, exponent) := significant count units
    let ds := if rounded = 0 then ['0'] else trimZeros (digits rounded)
    signed b.negative ((generalLayout count).write ds exponent)

end Number

end PlanarMotion
