import PlanarMotion.Number.Binary64
import PlanarMotion.Number.Layout

/-!
# A Fixed Number of Places

A double with a given number of digits behind the point. The digits are those of
the exact value, rounded once, a half to even; the sign is kept even when all
digits are zero, so that a caller who does not want `-0.000` has to say so.

## Main definitions

* `fixedDigits`: A count of units as digits around a point.
* `fixed`: A double with a fixed number of places.
-/

namespace PlanarMotion

namespace Number

/-- A count of units, rounded to a number of places. Without places there is no point. -/
def fixedDigits (places units : Nat) : List Char :=
  -- Exact up to here; the one rounding goes to the even neighbour.
  let scaled := roundDiv (units * Nat.pow 10 places) unitsPerOne
  if places = 0 then digits scaled
  else digits (scaled / Nat.pow 10 places) ++ '.' :: padded places (scaled % Nat.pow 10 places)

/-- A double with a fixed number of places behind the point. -/
def fixed (places : Nat) (x : Float) : List Char :=
  let b := Binary64.ofFloat x
  match b.magnitude with
  | .nan => ['n', 'a', 'n']
  | .infinite => signed b.negative ['i', 'n', 'f']
  | .finite units => signed b.negative (fixedDigits places units)

end Number

end PlanarMotion
