import PlanarMotion.Number.Shortest
import PlanarMotion.Proofs.Number.Nearest
import Mathlib.Tactic.Positivity

/-!
# Decimals Read Back

The word of a decimal is that of a ratio of two powers. The definition has two shortcuts
for exponents so large that the power would be out of proportion; both answer what the
ratio would have given, so `Decimal.word_eq` has no cases. From there on a decimal can be
rewritten like a fraction, and in particular zeros can be moved between its coefficient
and its exponent.

What is written for a word is tried out before it is written, except for the exact
expansion, which needs no trial. So the shortest decimal reads back without any argument
about how many digits are enough.

## Theorems

* `Decimal.word_eq`: The word of a decimal is that of a ratio.
* `Decimal.word_shift`: Zeros at the end of a coefficient count as a power of ten.
* `word_shortestDecimal`: The shortest decimal of a word reads back as the word.
-/

namespace PlanarMotion

namespace Number

theorem wordOfRatio_zero (den : Nat) (hden : 0 < den) : wordOfRatio 0 den = 0 := by
  refine wordOfRatio_eq_of_units 0 den 0 hden (by decide) ?_
  rw [Nat.zero_mul, show unitsOfWord 0 = 0 by decide, Nat.zero_mul]

theorem two_pow_mul_unitsPerOne (n : Nat) : 2 ^ n * unitsPerOne = 2 ^ (n + 1074) := by
  unfold unitsPerOne
  simp only [Nat.pow_eq, Nat.pow_add, -Nat.reducePow]

/-- The infinite word stands where `2^1024` would be. -/
theorem unitsOfWord_infinityWord_le (e : Nat) (he : 1024 ≤ e) :
    unitsOfWord infinityWord ≤ 2 ^ e * unitsPerOne := by
  have hword : infinityWord = 2046 * wordsPerBinade + wordsPerBinade := by decide
  have hunits := unitsOfWord_binade 2046 wordsPerBinade (by omega) (Or.inl (Nat.le_refl _))
  have hpow : wordsPerBinade = 2 ^ 52 := by decide
  rw [two_pow_mul_unitsPerOne, hword, hunits, hpow, ← Nat.pow_add]
  exact Nat.pow_le_pow_right (by decide) (by omega)

/-- From `2^1024` on a ratio is infinite. -/
theorem wordOfRatio_eq_infinityWord (num den e : Nat) (hden : 0 < den) (he : 1024 ≤ e)
    (h : 2 ^ e * den ≤ num) : wordOfRatio num den = infinityWord := by
  rw [wordOfRatio_eq]
  refine Nat.min_eq_left (le_nearestWord _ _ _ hden ?_)
  calc unitsOfWord infinityWord * den ≤ 2 ^ e * unitsPerOne * den :=
        Nat.mul_le_mul_right den (unitsOfWord_infinityWord_le e he)
    _ = 2 ^ e * den * unitsPerOne := Nat.mul_right_comm _ _ _
    _ ≤ num * unitsPerOne := Nat.mul_le_mul_right unitsPerOne h

-- Below half a unit the zero word is strictly nearest: any other word counts a unit or more.
theorem wordOfRatio_eq_zero (num den : Nat) (h : 2 * (num * unitsPerOne) < den) :
    wordOfRatio num den = 0 := by
  have hden : 0 < den := by omega
  have hnearest := dist_nearestWord_le (num * unitsPerOne) den 0 hden
  rw [wordOfRatio_eq]
  by_contra hne
  have hpos : 0 < nearestWord (num * unitsPerOne) den := by
    refine Nat.pos_of_ne_zero (fun hzero => hne ?_)
    rw [hzero]
    exact Nat.min_eq_right (Nat.zero_le _)
  have hunit : 0 < unitsOfWord (nearestWord (num * unitsPerOne) den) :=
    Nat.lt_of_le_of_lt (Nat.zero_le _) (unitsOfWord_strictMono hpos)
  have hmul := Nat.le_mul_of_pos_left den hunit
  rw [show unitsOfWord 0 = 0 by decide, Nat.zero_mul] at hnearest
  unfold Nat.dist at hnearest
  omega

theorem two_pow_le_ten_pow (n : Nat) : 2 ^ (3 * n) ≤ 10 ^ n := by
  rw [Nat.pow_mul]
  exact Nat.pow_le_pow_left (by decide) n

/-- Reading a decimal is rounding its exact value once. The two shortcuts for exponents
    far out give what the quotient would have given. -/
theorem Decimal.word_eq (d : Decimal) :
    d.word = wordOfRatio (d.coefficient * 10 ^ d.exponent.toNat) (10 ^ (-d.exponent).toNat) := by
  rcases d with ⟨c, e⟩
  unfold Decimal.word
  simp only [Nat.pow_eq]
  by_cases hc : c = 0
  · rw [if_pos hc, hc, Nat.zero_mul, wordOfRatio_zero _ (Nat.pow_pos (by decide))]
  -- All that the shortcuts know of the coefficient is the power of two below it.
  have hlow := Nat.log2_self_le hc
  have hhigh := Nat.lt_log2_self (n := c)
  rw [if_neg hc]
  by_cases he : 0 ≤ e
  · rw [if_pos he, show (-e).toNat = 0 by omega, show e.natAbs = e.toNat by omega, Nat.pow_zero]
    -- Each power of ten is worth three of two, so far out the ratio is beyond all doubles.
    by_cases hlarge : 1024 ≤ c.log2 + 3 * e.toNat
    · rw [if_pos hlarge, wordOfRatio_eq_infinityWord _ _ _ Nat.one_pos hlarge]
      rw [Nat.mul_one, Nat.pow_add]
      exact Nat.mul_le_mul hlow (two_pow_le_ten_pow _)
    · rw [if_neg hlarge]
  · rw [if_neg he, show e.toNat = 0 by omega, show (-e).toNat = e.natAbs by omega, Nat.pow_zero,
      Nat.mul_one]
    -- In the other direction it is less than half a unit.
    by_cases hsmall : c.log2 + 1081 < 3 * e.natAbs
    · rw [if_pos hsmall, wordOfRatio_eq_zero]
      calc 2 * (c * unitsPerOne) < 2 * (2 ^ (c.log2 + 1) * unitsPerOne) := by
            have hunits : 0 < unitsPerOne := Nat.two_pow_pos 1074
            have hmul := Nat.mul_lt_mul_of_pos_right hhigh hunits
            omega
        _ = 2 ^ (c.log2 + 1076) := by
            rw [two_pow_mul_unitsPerOne, ← Nat.pow_succ']
        _ ≤ 2 ^ (3 * e.natAbs) := Nat.pow_le_pow_right (by decide) (by omega)
        _ ≤ 10 ^ e.natAbs := two_pow_le_ten_pow _
    · rw [if_neg hsmall]

/-- Zeros at the end of a coefficient count as a power of ten. -/
theorem Decimal.word_shift (c n : Nat) (e : Int) :
    Decimal.word ⟨c * 10 ^ n, e⟩ = Decimal.word ⟨c, e + n⟩ := by
  rw [Decimal.word_eq, Decimal.word_eq]
  simp only
  -- What the two ratios differ by is the power of ten that one of them has on both sides.
  rcases Int.lt_or_le e 0 with hneg | hnonneg
  · rw [show e.toNat = 0 by omega, Nat.pow_zero, Nat.mul_one]
    rcases Int.lt_or_le (e + n) 0 with hstill | hcross
    · rw [show (e + n).toNat = 0 by omega, Nat.pow_zero, Nat.mul_one,
        show (-e).toNat = (-(e + n)).toNat + n by omega, Nat.pow_add,
        wordOfRatio_mul_mul _ _ _ (Nat.pow_pos (by decide))]
    · -- The zeros make up for the whole denominator, and some are left over.
      have hpow : 10 ^ n = 10 ^ (e + n).toNat * 10 ^ (-e).toNat := by
        rw [← Nat.pow_add]
        congr 1
        omega
      have hscale := wordOfRatio_mul_mul (c * 10 ^ (e + n).toNat) 1 (10 ^ (-e).toNat)
        (Nat.pow_pos (by decide))
      rw [Nat.one_mul] at hscale
      rw [show (-(e + n)).toNat = 0 by omega, Nat.pow_zero, hpow, ← Nat.mul_assoc]
      exact hscale
  · rw [show (-e).toNat = 0 by omega, show (-(e + n)).toNat = 0 by omega,
      show (e + n).toNat = n + e.toNat by omega, Nat.pow_add, Nat.mul_assoc]

/-- Seventeen digits or the whole expansion: what stands for a word reads back as it. -/
theorem word_nearestOfLength? (word : Nat) (exponent : Int) (count : Nat) (d : Decimal)
    (h : nearestOfLength? word exponent count = some d) : d.word = word := by
  unfold nearestOfLength? at h
  simp only at h
  -- Every branch that answers has tried its answer.
  split at h
  · rename_i hbelow
    split at h
    · rename_i habove
      rw [Option.some.injEq] at h
      rw [← h]
      exact habove.1
    · rw [Option.some.injEq] at h
      rw [← h]
      exact hbelow
  · split at h
    · rename_i habove
      rw [Option.some.injEq] at h
      rw [← h]
      exact habove
    · cases h

/-- The whole expansion of a word reads back as it. -/
theorem word_exactDecimal (word : Nat) (h : word < infinityWord) :
    (exactDecimal (unitsOfWord word)).word = word := by
  rw [Decimal.word_eq]
  unfold exactDecimal
  refine wordOfRatio_eq_of_units _ _ _ (Nat.pow_pos (by decide)) h ?_
  -- The powers of two and of five make the power of ten that the decimal is divided by.
  unfold unitsPerOne
  simp only [Nat.pow_eq, show (-1074 : Int).toNat = 0 by decide,
    show (- -1074 : Int).toNat = 1074 by decide, Nat.pow_zero, Nat.mul_one, Nat.mul_assoc,
    ← Nat.mul_pow, -Nat.reducePow]

/-- The shortest decimal of a word reads back as it, as every one that is tried and taken does. -/
theorem word_shortestDecimal (word : Nat) (h : word < infinityWord) :
    (shortestDecimal word).word = word := by
  unfold shortestDecimal
  simp only
  cases hfound : (List.range 17).findSome? fun k =>
      nearestOfLength? word (leadingExponent (unitsOfWord word)) (k + 1) with
  | none =>
      -- If none of them answers, the whole expansion stands in.
      rw [Option.getD_none]
      exact word_exactDecimal word h
  | some d =>
      rcases List.exists_of_findSome?_eq_some hfound with ⟨k, -, hk⟩
      rw [Option.getD_some]
      exact word_nearestOfLength? word _ _ d hk

end Number

end PlanarMotion
