/-!
# Layouts of Significant Digits

A nonzero decimal is written from its significant digits and the exponent of the
first of them, either positionally or in scientific notation. The formats of this
library differ only in where they switch from one to the other and in whether a
whole number keeps a point; `Layout` records that choice.

## Main definitions

* `padded`: Digits of a number, filled up with zeros on the left.
* `positional`: Digits around a decimal point.
* `scientific`: Digits with an exponent.
* `Layout`: Which exponents are written positionally.
* `Layout.write`: Digits in the layout's notation.
* `signed`: A minus sign in front if there is one.
-/

namespace PlanarMotion

namespace Number

/-- The decimal digits of a number. -/
def digits (n : Nat) : List Char :=
  Nat.toDigits 10 n

/-- The decimal digits of a number, with zeros in front up to a width. -/
def padded (width n : Nat) : List Char :=
  List.replicate (width - (digits n).length) '0' ++ digits n

/-- A minus sign in front of a negative text. -/
def signed (negative : Bool) (body : List Char) : List Char :=
  if negative then '-' :: body else body

/-- Drops the zeros at the end of a text. -/
def trimZeros (cs : List Char) : List Char :=
  (cs.reverse.dropWhile (· == '0')).reverse

/-- The first digit, a point if more follow, the rest, and the exponent with a sign
    and at least two digits. -/
def scientific (ds : List Char) (exponent : Int) : List Char :=
  let fraction := ds.drop 1
  let mark := if exponent < 0 then ['e', '-'] else ['e', '+']
  ds.take 1 ++ (if fraction.isEmpty then [] else '.' :: fraction) ++ mark
    ++ padded 2 exponent.natAbs

/-- The digits with the point where the exponent of the first puts it. `tail` follows
    a number that has no digit behind the point. -/
def positional (tail ds : List Char) (exponent : Int) : List Char :=
  if exponent < 0 then
    '0' :: '.' :: (List.replicate (exponent.natAbs - 1) '0' ++ ds)
  else
    let whole := exponent.toNat + 1
    if ds.length ≤ whole then ds ++ List.replicate (whole - ds.length) '0' ++ tail
    else ds.take whole ++ '.' :: ds.drop whole

/-- How a format chooses between the two notations. -/
structure Layout where
  /-- The least exponent written positionally. -/
  lowest : Int
  /-- The least exponent above it that is not. -/
  limit : Int
  /-- What follows a positional number without a fraction. -/
  tail : List Char

/-- Writes digits in the notation that the layout has for their exponent. -/
def Layout.write (layout : Layout) (ds : List Char) (exponent : Int) : List Char :=
  if layout.lowest ≤ exponent ∧ exponent < layout.limit then
    positional layout.tail ds exponent
  else scientific ds exponent

end Number

end PlanarMotion
