/-!
# Rounding a Quotient

Every conversion between doubles and decimal text rounds one exact quotient of
natural numbers once, and always in the same way: to the nearest integer, a
half going to the even neighbour. `roundDiv` is that step, so reading a numeral
and printing a double share their only inexact operation.

## Main definitions

* `roundDiv`: The integer nearest to a quotient, ties to even.

## Theorems

* `div_le_roundDiv`, `roundDiv_le_div_succ`: The result is the quotient or its
  successor.
* `roundDiv_mul_self`: An exact quotient is not rounded.
-/

namespace PlanarMotion

namespace Number

/-- The integer nearest to `num / den`; a half goes to the even neighbour. -/
def roundDiv (num den : Nat) : Nat :=
  let quotient := num / den
  let twice := 2 * (num % den)
  if den < twice ∨ (twice = den ∧ quotient % 2 = 1) then quotient + 1 else quotient

/-- Rounding never goes below the whole part of the quotient. -/
theorem div_le_roundDiv (num den : Nat) : num / den ≤ roundDiv num den := by
  unfold roundDiv
  simp only
  split <;> omega

/-- Rounding goes at most one above the whole part of the quotient. -/
theorem roundDiv_le_div_succ (num den : Nat) : roundDiv num den ≤ num / den + 1 := by
  unfold roundDiv
  simp only
  split <;> omega

/-- A quotient that is already whole stays as it is. -/
theorem roundDiv_mul_self (k den : Nat) (hden : 0 < den) : roundDiv (k * den) den = k := by
  have hmod : k * den % den = 0 := Nat.mul_mod_left k den
  have hdiv : k * den / den = k := Nat.mul_div_cancel k hden
  unfold roundDiv
  simp only [hmod, hdiv, Nat.mul_zero]
  rw [if_neg (by omega)]

end Number

end PlanarMotion
