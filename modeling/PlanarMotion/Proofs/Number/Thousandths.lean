import PlanarMotion.Proofs.Number.ReadBack
import PlanarMotion.Proofs.Number.Word

/-!
# Three Places

A literal is printed with three places and read back as the double nearest to them. Two
roundings are involved, in opposite directions: from units to thousandths, and from
thousandths to the nearest word. Neither undoes the other. The grid of thousandths is
finer than that of doubles above some size and coarser below it.

What saves the matter is that the second rounding chooses the nearest of all doubles, and
the one that was printed is among them. So the double that is read is as near to the
printed thousandths as the first one or nearer, at any size, and is printed as the same
thousandths again.

## Main definitions

* `unitsOf`, `signOf`, `value`: The size, the sign and the value of a double.
* `thousandths`: How many thousandths are printed for a double.
* `rounded`: The double that is read back.
* `unsigned`: A double without its sign.
* `printedValue`: The value of the decimal that is printed.

## Theorems

* `dist_rounded_le`: What is read is no further from the printed decimal than any double.
* `thousandths_rounded`: What is read is printed the same.
* `abs_value_rounded_sub_le`: The nearest double, in terms of values.
* `abs_value_rounded_sub_value_le`: It is at most a thousandth off.
* `zero_le_value_iff`: Comparison with zero, in terms of values.
-/

namespace PlanarMotion

namespace Number

/-- The count of units in a double; what is not finite counts as none. -/
def unitsOf (x : Float) : Nat :=
  match (Binary64.ofFloat x).magnitude with
  | .finite units => units
  | _ => 0

/-- One with the sign of a double. -/
def signOf (x : Float) : ℚ :=
  if (Binary64.ofFloat x).negative then -1 else 1

/-- The value of a finite double. -/
def value (x : Float) : ℚ :=
  signOf x * (unitsOf x / unitsPerOne)

/-- How many thousandths are printed for a double, without its sign. -/
def thousandths (x : Float) : Nat :=
  roundDiv (unitsOf x * 1000) unitsPerOne

/-- The double that is read where a double has been printed with three places: the one
    nearest to that many thousandths. A zero has no sign. -/
def rounded (x : Float) : Float :=
  Decimal.toFloat ((Binary64.ofFloat x).negative && thousandths x != 0) ⟨thousandths x, -3⟩

/-- A double without its sign. -/
def unsigned (x : Float) : Float :=
  floatOfWord false (magnitudeWord x)

theorem unitsPerOne_pos : 0 < unitsPerOne :=
  Nat.two_pow_pos 1074

theorem cast_unitsPerOne_pos : (0 : ℚ) < unitsPerOne :=
  Nat.cast_pos.mpr unitsPerOne_pos

theorem unitsOf_of_finite (x : Float) (h : magnitudeWord x < infinityWord) :
    unitsOf x = unitsOfWord (magnitudeWord x) := by
  unfold unitsOf
  rw [ofFloat_eq]
  simp only
  rw [magnitudeOfWord, if_pos h]

theorem magnitude_of_finite (x : Float) (h : magnitudeWord x < infinityWord) :
    (Binary64.ofFloat x).magnitude = .finite (unitsOf x) := by
  rw [ofFloat_eq, unitsOf_of_finite x h, magnitudeOfWord, if_pos h]

theorem unitsOf_floatOfWord (negative : Bool) (word : Nat) (h : word < infinityWord) :
    unitsOf (floatOfWord negative word) = unitsOfWord word := by
  have hword := magnitudeWord_floatOfWord negative word h.le
  rw [unitsOf_of_finite _ (by rw [hword]; exact h), hword]

theorem signOf_floatOfWord (negative : Bool) (word : Nat) (h : word ≤ infinityWord) :
    signOf (floatOfWord negative word) = if negative then -1 else 1 := by
  unfold signOf
  rw [ofFloat_floatOfWord negative word h]

/-- A finite double is at least zero exactly if its value is. -/
theorem zero_le_value_iff (x : Float) (h : magnitudeWord x < infinityWord) :
    0 ≤ value x ↔ Float.le Double.zero x = true := by
  have hone := cast_unitsPerOne_pos
  rw [zero_le_iff x h, value, signOf]
  cases (Binary64.ofFloat x).negative with
  | false =>
      -- Without a sign both sides hold.
      rw [if_neg Bool.false_ne_true, one_mul]
      exact iff_of_true (div_nonneg (Nat.cast_nonneg _) hone.le) (Or.inl rfl)
  | true =>
      -- A double with a sign is at least zero only as the zero with a sign.
      have hunits : unitsOf x = 0 ↔ magnitudeWord x = 0 := by
        rw [unitsOf_of_finite x h]
        exact unitsOfWord_strictMono.injective.eq_iff' rfl
      rw [if_pos rfl, neg_one_mul, neg_nonneg, div_le_iff₀ hone, zero_mul]
      simp only [reduceCtorEq, false_or]
      rw [← hunits]
      exact_mod_cast Nat.le_zero

/-- Printing moves a double by half a thousandth at most. -/
theorem two_mul_dist_thousandths_le (x : Float) :
    2 * Nat.dist (unitsOf x * 1000) (thousandths x * unitsPerOne) ≤ unitsPerOne :=
  two_mul_dist_roundDiv_le _ _ unitsPerOne_pos

/-- The largest finite word counts a whole number of ones, so nothing finite is printed
    as more than it. -/
theorem unitsPerOne_dvd_last : unitsPerOne ∣ unitsOfWord (infinityWord - 1) := by
  have hlast : infinityWord - 1
      = (971 + 1074) * wordsPerBinade + (2 * wordsPerBinade - 1) := by decide
  have hunits := unitsOfWord_binade (971 + 1074) (2 * wordsPerBinade - 1) (by omega)
    (Or.inl (by decide))
  rw [hlast, hunits, ← two_pow_mul_unitsPerOne]
  exact Nat.dvd_mul_left_of_dvd (Nat.dvd_mul_left _ _) _

/-- The decimal printed for a finite double reads back as the nearest word, and as a
    finite one. -/
theorem word_thousandths (x : Float) (h : magnitudeWord x < infinityWord) :
    (Decimal.mk (thousandths x) (-3)).word = nearestWord (thousandths x * unitsPerOne) 1000 ∧
      nearestWord (thousandths x * unitsPerOne) 1000 < infinityWord := by
  -- Rounding to thousandths is monotone and keeps the largest double, so the printed decimal
  -- is no larger than that one, and neither is the word nearest to it.
  rcases unitsPerOne_dvd_last with ⟨ones, hones⟩
  have hle : thousandths x ≤ ones * 1000 := by
    have hword := unitsOfWord_strictMono.monotone
      (show magnitudeWord x ≤ infinityWord - 1 by omega)
    unfold thousandths
    rw [← roundDiv_mul_self (ones * 1000) unitsPerOne unitsPerOne_pos]
    refine roundDiv_mono _ _ _ unitsPerOne_pos ?_
    rw [unitsOf_of_finite x h, Nat.mul_right_comm, Nat.mul_comm ones, ← hones]
    exact Nat.mul_le_mul_right 1000 hword
  have hlt : nearestWord (thousandths x * unitsPerOne) 1000 ≤ infinityWord - 1 := by
    refine nearestWord_le _ _ _ (by decide) ?_
    calc thousandths x * unitsPerOne ≤ ones * 1000 * unitsPerOne :=
          Nat.mul_le_mul_right _ hle
      _ = unitsOfWord (infinityWord - 1) * 1000 := by rw [hones]; ring
  have hpos : 0 < infinityWord := by decide
  constructor
  · rw [Decimal.word_eq]
    simp only [show (-3 : Int).toNat = 0 by decide, show (- -3 : Int).toNat = 3 by decide,
      Nat.pow_zero, Nat.mul_one, show 10 ^ 3 = 1000 by decide]
    rw [wordOfRatio_eq]
    exact Nat.min_eq_right (by omega)
  · omega

/-- What is read back has the word nearest to the printed decimal. -/
theorem magnitudeWord_rounded (x : Float) (h : magnitudeWord x < infinityWord) :
    magnitudeWord (rounded x) = nearestWord (thousandths x * unitsPerOne) 1000 := by
  rcases word_thousandths x h with ⟨hword, hlt⟩
  unfold rounded Decimal.toFloat
  rw [hword, magnitudeWord_floatOfWord _ _ hlt.le]

/-- What is printed of a finite double never reads back as infinite. -/
theorem rounded_finite (x : Float) (h : magnitudeWord x < infinityWord) :
    magnitudeWord (rounded x) < infinityWord := by
  rw [magnitudeWord_rounded x h]
  exact (word_thousandths x h).2

/-- Whatever the magnitude, the double that is read is no further from the printed decimal
    than the double that was printed. -/
theorem dist_rounded_le (x y : Float) (hx : magnitudeWord x < infinityWord)
    (hy : magnitudeWord y < infinityWord) :
    Nat.dist (unitsOf (rounded x) * 1000) (thousandths x * unitsPerOne)
      ≤ Nat.dist (unitsOf y * 1000) (thousandths x * unitsPerOne) := by
  have hnearest := dist_nearestWord_le (thousandths x * unitsPerOne) 1000 (magnitudeWord y)
    (by decide)
  rw [unitsOf_of_finite _ (rounded_finite x hx), unitsOf_of_finite y hy,
    magnitudeWord_rounded x hx, Nat.dist_comm, Nat.dist_comm (_ * 1000)]
  exact hnearest

/-- A second printing shows the same thousandths. The double that was read is as near to
    them as the first one or nearer, so it could only show others in a tie; and then the
    first one was in a tie as well, and the thousandths are even. -/
theorem thousandths_rounded (x : Float) (h : magnitudeWord x < infinityWord) :
    thousandths (rounded x) = thousandths x := by
  -- The double that was printed is one of those the nearest was chosen from.
  have hnearer := Nat.mul_le_mul_left 2 (dist_rounded_le x x h h)
  have hhalf := two_mul_dist_thousandths_le x
  have htie : 2 * Nat.dist (unitsOf (rounded x) * 1000) (thousandths x * unitsPerOne)
      = unitsPerOne → thousandths x % 2 = 0 := by
    intro heq
    rw [heq] at hnearer
    exact roundDiv_even_of_tie _ _ unitsPerOne_pos (Nat.le_antisymm hhalf hnearer)
  exact roundDiv_eq_of_dist _ _ _ unitsPerOne_pos (Nat.le_trans hnearer hhalf) htie

theorem negative_rounded (x : Float) (h : magnitudeWord x < infinityWord) :
    (Binary64.ofFloat (rounded x)).negative
      = ((Binary64.ofFloat x).negative && thousandths x != 0) := by
  rcases word_thousandths x h with ⟨hword, hlt⟩
  unfold rounded Decimal.toFloat
  rw [hword, ofFloat_floatOfWord _ _ hlt.le]

/-- The value of the decimal that is printed for a double with three places. -/
def printedValue (x : Float) : ℚ :=
  signOf x * (thousandths x / 1000)

theorem abs_signOf (x : Float) : |signOf x| = 1 := by
  unfold signOf
  split
  · rw [abs_neg, abs_one]
  · exact abs_one

theorem cast_dist (m n : Nat) : (Nat.dist m n : ℚ) = |(m : ℚ) - n| := by
  rcases Nat.le_total m n with hle | hge
  · rw [Nat.dist_eq_sub_of_le hle, Nat.cast_sub hle, abs_sub_comm, abs_of_nonneg]
    exact sub_nonneg.mpr (Nat.cast_le.mpr hle)
  · rw [Nat.dist_eq_sub_of_le_right hge, Nat.cast_sub hge, abs_of_nonneg]
    exact sub_nonneg.mpr (Nat.cast_le.mpr hge)

/-- The distance of a count of units from a count of thousandths, over a common divisor. -/
theorem abs_div_sub_div (units count : Nat) : |(units / unitsPerOne - count / 1000 : ℚ)|
    = Nat.dist (units * 1000) (count * unitsPerOne) / (unitsPerOne * 1000) := by
  have hden : (0 : ℚ) < unitsPerOne * 1000 := mul_pos cast_unitsPerOne_pos (by norm_num)
  have hdist := cast_dist (units * 1000) (count * unitsPerOne)
  push_cast at hdist
  rw [hdist, div_sub_div _ _ cast_unitsPerOne_pos.ne' (by norm_num), abs_div, abs_of_pos hden,
    mul_comm (count : ℚ)]

theorem abs_value (x : Float) : |value x| = unitsOf x / unitsPerOne := by
  have hnonneg : (0 : ℚ) ≤ unitsOf x / unitsPerOne := by positivity
  rw [value, abs_mul, abs_signOf, one_mul, abs_of_nonneg hnonneg]

theorem abs_printedValue (x : Float) : |printedValue x| = thousandths x / 1000 := by
  have hnonneg : (0 : ℚ) ≤ thousandths x / 1000 := by positivity
  rw [printedValue, abs_mul, abs_signOf, one_mul, abs_of_nonneg hnonneg]

/-- The value that is read has the sign of the one that was printed, or is zero. -/
theorem value_rounded (x : Float) (h : magnitudeWord x < infinityWord) :
    value (rounded x) = signOf x * (unitsOf (rounded x) / unitsPerOne) := by
  by_cases hzero : thousandths x = 0
  · -- Without thousandths the sign is lost, but so is the size.
    have hword := magnitudeWord_floatOfWord false 0 (by decide)
    have hdist := dist_rounded_le x (floatOfWord false 0) h (by rw [hword]; decide)
    rw [unitsOf_floatOfWord false 0 (by decide), hzero, Nat.zero_mul,
      show unitsOfWord 0 = 0 by decide, Nat.zero_mul, Nat.dist_self] at hdist
    have hunits : unitsOf (rounded x) = 0 := by
      unfold Nat.dist at hdist
      omega
    rw [value, hunits, Nat.cast_zero, zero_div, mul_zero, mul_zero]
  · have hsign : signOf (rounded x) = signOf x := by
      unfold signOf
      rw [negative_rounded x h, bne_iff_ne.mpr hzero, Bool.and_true]
    rw [value, hsign]

/-- The double that is read is the nearest one to the printed decimal. -/
theorem abs_value_rounded_sub_le (x y : Float) (hx : magnitudeWord x < infinityWord)
    (hy : magnitudeWord y < infinityWord) :
    |value (rounded x) - printedValue x| ≤ |value y - printedValue x| := by
  have hdist : (Nat.dist (unitsOf (rounded x) * 1000) (thousandths x * unitsPerOne) : ℚ)
      ≤ Nat.dist (unitsOf y * 1000) (thousandths x * unitsPerOne) :=
    Nat.cast_le.mpr (dist_rounded_le x y hx hy)
  calc |value (rounded x) - printedValue x|
      = |(unitsOf (rounded x) / unitsPerOne - thousandths x / 1000 : ℚ)| := by
        rw [value_rounded x hx, printedValue, ← mul_sub, abs_mul, abs_signOf, one_mul]
    _ ≤ |(unitsOf y / unitsPerOne - thousandths x / 1000 : ℚ)| := by
        rw [abs_div_sub_div, abs_div_sub_div]
        exact div_le_div_of_nonneg_right hdist (mul_pos cast_unitsPerOne_pos (by norm_num)).le
    -- A double of the other sign is only further away.
    _ = |(|value y| - |printedValue x|)| := by rw [abs_value, abs_printedValue]
    _ ≤ |value y - printedValue x| := abs_abs_sub_abs_le _ _

/-- A double is printed with an error of half a thousandth at most. -/
theorem abs_printedValue_sub_le (x : Float) : |printedValue x - value x| ≤ 1 / 2000 := by
  have hden : (0 : ℚ) < unitsPerOne * 1000 := mul_pos cast_unitsPerOne_pos (by norm_num)
  have hhalf : (2 * Nat.dist (unitsOf x * 1000) (thousandths x * unitsPerOne) : ℚ)
      ≤ unitsPerOne := by
    exact_mod_cast two_mul_dist_thousandths_le x
  rw [abs_sub_comm, value, printedValue, ← mul_sub, abs_mul, abs_signOf, one_mul,
    abs_div_sub_div, div_le_div_iff₀ hden (by norm_num)]
  linarith

/-- Printing and reading back moves a double by a thousandth at most. -/
theorem abs_value_rounded_sub_value_le (x : Float) (h : magnitudeWord x < infinityWord) :
    |value (rounded x) - value x| ≤ 1 / 1000 := by
  -- Half a thousandth is lost in printing, and reading loses no more than printing did.
  have hread := abs_value_rounded_sub_le x x h h
  have hprint := abs_printedValue_sub_le x
  rw [abs_sub_comm] at hprint
  have htriangle := abs_sub_le (value (rounded x)) (printedValue x) (value x)
  rw [abs_sub_comm (printedValue x)] at htriangle
  linarith

end Number

end PlanarMotion
