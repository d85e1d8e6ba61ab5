import PlanarMotion.Number.Rounding

/-!
# Doubles as Multiples of the Smallest One

Every finite double is a whole multiple of the smallest positive one, `2^-1074`.
Counting in that unit turns exact statements about doubles into statements about
natural numbers: the value of a double is `units / 2^1074` with its sign, the
order of magnitudes is the order of counts, and no case for the exponent is left
over. `Magnitude` is that view, `magnitudeOfWord` reads it off the 63 lower bits
and `wordOfRatio` goes back, rounding an arbitrary quotient once.

The words of finite magnitudes are consecutive numbers in the order of their
values, so rounding up out of one binade lands in the next by itself: the word
is `shift * 2^52` plus a rounded quotient that may reach `2^53`.

## Main definitions

* `unitsPerOne`: How many units make one, `2^1074`.
* `wordsPerBinade`, `signWord`: What the exponent and the sign add to a word.
* `Magnitude`: Not a number, infinite, or a count of units.
* `Binary64`: A magnitude with its sign.
* `Binary64.ofFloat`: The view of a double.
* `wordOfRatio`: The magnitude word nearest to a quotient.
* `floatOfRatio`: The double nearest to a signed quotient.
-/

namespace PlanarMotion

namespace Number

/-- The number of units in one. The unit is the smallest positive double. -/
def unitsPerOne : Nat := Nat.pow 2 1074

/-- The number of words in one binade, `2^52`. -/
def wordsPerBinade : Nat := 4503599627370496

/-- What the sign bit adds to a word, `2^63`. -/
def signWord : Nat := 9223372036854775808

/-- The first magnitude word that is not finite; it stands for infinity. -/
def infinityWord : Nat := 2047 * wordsPerBinade

/-- The size of a double, without its sign. -/
inductive Magnitude where
  /-- Not a number. -/
  | nan
  /-- Larger than every finite double. -/
  | infinite
  /-- A whole number of units. -/
  | finite (units : Nat)
  deriving DecidableEq, Repr

/-- The count of units that a finite magnitude word stands for. -/
def unitsOfWord (word : Nat) : Nat :=
  if word < wordsPerBinade then word
  -- The leading bit is not stored.
  else (wordsPerBinade + word % wordsPerBinade) * Nat.pow 2 (word / wordsPerBinade - 1)

/-- The size that the 63 lower bits of a double stand for. -/
def magnitudeOfWord (word : Nat) : Magnitude :=
  if word < infinityWord then .finite (unitsOfWord word)
  else if word = infinityWord then .infinite
  else .nan

/-- The magnitude word nearest to `num / den`, ties to even, and the infinite one
    from the overflow threshold on. -/
def wordOfRatio (num den : Nat) : Nat :=
  let scaled := num * unitsPerOne
  -- The bits beyond those that a mantissa holds, none for a subnormal.
  let shift := (scaled / den).log2 - 52
  min infinityWord (shift * wordsPerBinade + roundDiv scaled (den * Nat.pow 2 shift))

/-- A double taken apart into its sign and its size. The sign of a value that is
    not a number carries no meaning. -/
structure Binary64 where
  /-- Whether the sign bit is set; a zero has a sign too. -/
  negative : Bool
  /-- The size. -/
  magnitude : Magnitude
  deriving DecidableEq, Repr

/-- Takes a double apart. -/
def Binary64.ofFloat (x : Float) : Binary64 :=
  let bits := x.toBits.toNat
  ⟨decide (signWord ≤ bits), magnitudeOfWord (bits % signWord)⟩

/-- The double with a given sign and magnitude word. -/
def floatOfWord (negative : Bool) (word : Nat) : Float :=
  Float.ofBits (UInt64.ofNat (word + if negative then signWord else 0))

/-- The double nearest to `num / den` with a given sign. -/
def floatOfRatio (negative : Bool) (num den : Nat) : Float :=
  floatOfWord negative (wordOfRatio num den)

/-- The double nearest to a natural number. -/
def floatOfNat (n : Nat) : Float :=
  floatOfRatio false n 1

/-- The double nearest to an integer. -/
def floatOfInt (n : Int) : Float :=
  floatOfRatio (decide (n < 0)) n.natAbs 1

/-- The integer that a finite double is, without its sign, if it is whole. -/
def Magnitude.whole? : Magnitude → Option Nat
  | .finite units => if units % unitsPerOne = 0 then some (units / unitsPerOne) else none
  | _ => none

/-- The whole part of a double, cut toward zero; `none` if it is not finite. -/
def truncate? (x : Float) : Option Int :=
  let b := Binary64.ofFloat x
  match b.magnitude with
  | .finite units =>
    let whole := units / unitsPerOne
    some (if b.negative then -(whole : Int) else whole)
  | _ => none

end Number

end PlanarMotion
