import PlanarMotion.Number.Decimal
import PlanarMotion.Number.Significant

/-!
# The Fewest Digits that Read Back

A double is written exactly with the fewest significant digits that still read
back as the same double, and of two such texts with the one nearer to its value.
For each number of digits only the two neighbours of the value on that decimal
grid can be the nearest that reads back, so two exact tests a length are enough.

Seventeen digits always suffice. The search does not lean on that: if it came back
empty the exact decimal expansion would be written, and the result reads back by
construction in either case.

## Main definitions

* `nearestOfLength?`: The nearest decimal of a given length that reads back.
* `exactDecimal`: The finite decimal expansion of a count of units.
* `shortestDecimal`: The decimal that stands for a magnitude word.
* `shortest`: A double in the fewest digits that read back.
-/

namespace PlanarMotion

namespace Number

/-- The decimal with `count` significant digits that is nearest to the value of a
    magnitude word, if one of that length reads back as the word. The exponent of the
    first digit is given. -/
def nearestOfLength? (word : Nat) (exponent : Int) (count : Nat) : Option Decimal :=
  let power : Int := count - 1 - exponent
  let (num, den) := scaledRatio (unitsOfWord word) power
  -- The value lies between these two, so no other decimal of this length is nearer.
  let below : Decimal := ⟨num / den, -power⟩
  let above : Decimal := ⟨num / den + 1, -power⟩
  if below.word = word then
    if above.word = word ∧ roundDiv num den ≠ num / den then some above else some below
  else if above.word = word then some above
  else none

/-- The exact value of a count of units: a unit is `5^1074 / 10^1074`. -/
def exactDecimal (units : Nat) : Decimal :=
  ⟨units * Nat.pow 5 1074, -1074⟩

/-- The decimal written for a positive finite magnitude word. -/
def shortestDecimal (word : Nat) : Decimal :=
  let exponent := leadingExponent (unitsOfWord word)
  -- Up to seventeen digits are tried. The exact value reads back in any case.
  ((List.range 17).findSome? fun k => nearestOfLength? word exponent (k + 1)).getD
    (exactDecimal (unitsOfWord word))

/-- Positional from `10^-4` up to sixteen whole digits, always with a point. -/
def shortestLayout : Layout :=
  ⟨-4, 16, ['.', '0']⟩

/-- A finite magnitude word in the fewest digits that read back. -/
def shortestDigits (word : Nat) : List Char :=
  if word = 0 then ['0', '.', '0']
  else
    let d := shortestDecimal word
    let ds := digits d.coefficient
    shortestLayout.write (trimZeros ds) (d.exponent + ds.length - 1)

/-- A double in the fewest digits that read back as the same double. -/
def shortest (x : Float) : List Char :=
  let b := Binary64.ofFloat x
  match b.magnitude with
  | .nan => ['n', 'a', 'n']
  | .infinite => signed b.negative ['i', 'n', 'f']
  | .finite _ => signed b.negative (shortestDigits (x.toBits.toNat % signWord))

end Number

end PlanarMotion
