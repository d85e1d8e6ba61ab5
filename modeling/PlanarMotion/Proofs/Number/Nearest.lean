import PlanarMotion.Number.Binary64
import Mathlib.Data.Nat.Dist
import Mathlib.Tactic.Ring
import Mathlib.Order.Monotone.Basic

/-!
# The Nearest Word

Rounding to a double happens in two places: a quotient is rounded to an integer, and the
integer is the mantissa of a word. Both choose the nearest candidate, with ties to even,
and everything else about rounding follows from that.

Words are compared through `unitsOfWord`, which counts the least positive double. Counts
are natural numbers, so distances are too, and no claim here has a fraction in it. A word
is nearest to `num / den` units if `unitsOfWord word * den` is nearest to `num`. Since
`unitsOfWord` is strictly increasing and its values in a binade are the multiples of one
step, the nearest multiple of the step is the nearest word of all.

The overflow threshold is the only exception. `nearestWord` is what rounding would answer
without it, and `wordOfRatio` cuts it off.

## Main definitions

* `nearestWord`: The word nearest to a ratio of counts, as if words had no end.

## Theorems

* `dist_roundDiv_le`: Rounding a quotient chooses the nearest integer.
* `roundDiv_eq_of_dist`: What is near enough is what rounding chooses.
* `roundDiv_even_of_tie`: A tie goes to an even integer.
* `unitsOfWord_strictMono`: Words are ordered as what they count.
* `dist_nearestWord_le`: The nearest word is nearest among all.
* `nearestWord_le`, `le_nearestWord`: Rounding does not jump over a word.
* `nearestWord_unitsOfWord`: A word rounds to itself.
* `wordOfRatio_mul_mul`: Only the ratio counts.
-/

namespace PlanarMotion

namespace Number

/-- A rounded quotient is at most half a divisor away from the quotient. -/
theorem two_mul_dist_roundDiv_le (num den : Nat) (hden : 0 < den) :
    2 * Nat.dist num (roundDiv num den * den) ≤ den := by
  have hsplit : num / den * den + num % den = num := Nat.div_add_mod' num den
  have hrest : num % den < den := Nat.mod_lt num hden
  unfold roundDiv Nat.dist
  simp only
  -- Rounding up leaves what is missing to a whole divisor, rounding down the remainder.
  split
  · rw [Nat.add_mul, Nat.one_mul]
    omega
  · omega

/-- A quotient half-way between two integers goes to the even one. -/
theorem roundDiv_even_of_tie (num den : Nat) (hden : 0 < den)
    (htie : 2 * Nat.dist num (roundDiv num den * den) = den) : roundDiv num den % 2 = 0 := by
  have hsplit : num / den * den + num % den = num := Nat.div_add_mod' num den
  have hrest : num % den < den := Nat.mod_lt num hden
  unfold roundDiv Nat.dist at htie
  simp only at htie
  unfold roundDiv
  simp only
  -- A tie is the case where rounding looks at the last bit.
  split at htie
  · rename_i hup
    rw [Nat.add_mul, Nat.one_mul] at htie
    rw [if_pos hup]
    omega
  · rename_i hdown
    rw [if_neg hdown]
    omega

theorem le_dist_mul (j k den : Nat) (hne : j ≠ k) : den ≤ Nat.dist (j * den) (k * den) := by
  rw [Nat.dist_mul_right]
  have hpos : 0 < Nat.dist j k := Nat.dist_pos_of_ne hne
  exact Nat.le_mul_of_pos_left den hpos

/-- No multiple of the divisor is nearer than the rounded one. -/
theorem dist_roundDiv_le (num den k : Nat) (hden : 0 < den) :
    Nat.dist num (roundDiv num den * den) ≤ Nat.dist num (k * den) := by
  have hhalf := two_mul_dist_roundDiv_le num den hden
  by_cases hk : k = roundDiv num den
  · rw [hk]
  · -- A different multiple is a whole divisor away from one that is at most half away.
    have hapart := le_dist_mul k (roundDiv num den) den hk
    have htriangle := Nat.dist.triangle_inequality (k * den) num (roundDiv num den * den)
    rw [Nat.dist_comm (k * den) num] at htriangle
    omega

/-- An integer within half a divisor is the rounded quotient, if it is even in a tie. -/
theorem roundDiv_eq_of_dist (num den k : Nat) (hden : 0 < den)
    (hhalf : 2 * Nat.dist num (k * den) ≤ den)
    (htie : 2 * Nat.dist num (k * den) = den → k % 2 = 0) : roundDiv num den = k := by
  by_contra hne
  have hown := two_mul_dist_roundDiv_le num den hden
  have hapart := le_dist_mul (roundDiv num den) k den hne
  have htriangle := Nat.dist.triangle_inequality (roundDiv num den * den) num (k * den)
  rw [Nat.dist_comm (roundDiv num den * den) num] at htriangle
  -- Both are half a divisor away, so both are even and neighbours at once.
  have hleft := roundDiv_even_of_tie num den hden (by omega)
  have hright := htie (by omega)
  have hgap : den * 2 ≤ Nat.dist (roundDiv num den * den) (k * den) := by
    rw [Nat.dist_mul_right, Nat.mul_comm]
    refine Nat.mul_le_mul_right den ?_
    unfold Nat.dist
    omega
  omega

theorem roundDiv_mul_mul (num den c : Nat) (hc : 0 < c) :
    roundDiv (num * c) (den * c) = roundDiv num den := by
  have htwice : 2 * (num % den * c) = 2 * (num % den) * c := (Nat.mul_assoc _ _ _).symm
  unfold roundDiv
  simp only [Nat.mul_div_mul_right _ _ hc, Nat.mul_mod_mul_right, htwice,
    Nat.mul_lt_mul_right hc, Nat.mul_left_inj hc.ne']

/-- Rounding keeps the order. -/
theorem roundDiv_mono (m n den : Nat) (hden : 0 < den) (h : m ≤ n) :
    roundDiv m den ≤ roundDiv n den := by
  by_contra hlt
  have hm := two_mul_dist_roundDiv_le m den hden
  have hn := two_mul_dist_roundDiv_le n den hden
  have hstep : (roundDiv n den + 1) * den ≤ roundDiv m den * den :=
    Nat.mul_le_mul_right den (by omega)
  rw [Nat.add_mul, Nat.one_mul] at hstep
  unfold Nat.dist at hm hn
  -- Both would have to be in the same tie.
  have hmn : m = n := by omega
  rw [hmn] at hlt
  omega

/-- Every word is a mantissa in some binade, full unless the binade is the lowest. -/
theorem exists_binade (word : Nat) : ∃ shift r, word = shift * wordsPerBinade + r ∧
    r < 2 * wordsPerBinade ∧ (wordsPerBinade ≤ r ∨ shift = 0) := by
  -- The lowest binade is twice as long as its words are wide, so it takes one shift less.
  refine ⟨word / wordsPerBinade - 1, word - (word / wordsPerBinade - 1) * wordsPerBinade, ?_⟩
  have hsplit := Nat.div_add_mod' word wordsPerBinade
  have hrest := Nat.mod_lt word (show 0 < wordsPerBinade by decide)
  rcases Nat.eq_zero_or_pos (word / wordsPerBinade) with hzero | hpos
  · rw [hzero] at hsplit ⊢
    omega
  · have hback : (word / wordsPerBinade - 1) * wordsPerBinade + wordsPerBinade
        = word / wordsPerBinade * wordsPerBinade := by
      rw [← Nat.succ_mul, Nat.succ_eq_add_one, Nat.sub_add_cancel hpos]
    omega

/-- The units of a word are its mantissa, moved up by its binade. The mantissa that has
    just left its binade gives the first word of the next. -/
theorem unitsOfWord_binade (shift r : Nat) (hr : r ≤ 2 * wordsPerBinade)
    (hfull : wordsPerBinade ≤ r ∨ shift = 0) :
    unitsOfWord (shift * wordsPerBinade + r) = r * 2 ^ shift := by
  have hpos : 0 < wordsPerBinade := by decide
  unfold unitsOfWord
  simp only [Nat.pow_eq]
  by_cases hlow : shift * wordsPerBinade + r < wordsPerBinade
  · -- Only the lowest binade has words below a full mantissa.
    rw [if_pos hlow]
    have hshift : shift = 0 := by
      rcases hfull with hfull | hfull
      · omega
      · exact hfull
    rw [hshift, Nat.zero_mul, Nat.zero_add, Nat.pow_zero, Nat.mul_one]
  · rw [if_neg hlow]
    have hge : wordsPerBinade ≤ r := by
      rcases hfull with hfull | hfull
      · exact hfull
      · rw [hfull, Nat.zero_mul, Nat.zero_add] at hlow
        omega
    by_cases htop : r = 2 * wordsPerBinade
    · -- The mantissa has overflowed into the next binade.
      have hword : shift * wordsPerBinade + r = (shift + 2) * wordsPerBinade := by
        rw [htop, Nat.add_mul]
      rw [hword, Nat.mul_mod_left, Nat.mul_div_cancel _ hpos, htop,
        show shift + 2 - 1 = shift + 1 by omega, Nat.pow_succ]
      ring
    · have hword : shift * wordsPerBinade + r
          = (r - wordsPerBinade) + wordsPerBinade * (shift + 1) := by
        rw [Nat.mul_add, Nat.mul_one, Nat.mul_comm wordsPerBinade shift]
        omega
      rw [hword, Nat.add_mul_mod_self_left, Nat.add_mul_div_left _ _ hpos,
        Nat.mod_eq_of_lt (by omega), Nat.div_eq_of_lt (by omega),
        show 0 + (shift + 1) - 1 = shift by omega,
        show wordsPerBinade + (r - wordsPerBinade) = r by omega]

/-- Greater words count more. -/
theorem unitsOfWord_strictMono : StrictMono unitsOfWord := by
  -- Two neighbours are mantissas of one binade, where the overflow at its end counts as one.
  refine strictMono_nat_of_lt_succ (fun word => ?_)
  rcases exists_binade word with ⟨shift, r, hword, hr, hfull⟩
  rw [hword, Nat.add_assoc, unitsOfWord_binade shift r (by omega) hfull,
    unitsOfWord_binade shift (r + 1) (by omega) (by omega)]
  exact Nat.mul_lt_mul_of_pos_right (Nat.lt_succ_self r) (Nat.two_pow_pos shift)

/-- From a binade on, all units are multiples of the spacing there. -/
theorem unitsOfWord_lt_or_dvd (word shift : Nat) :
    unitsOfWord word < wordsPerBinade * 2 ^ shift ∨ 2 ^ shift ∣ unitsOfWord word := by
  rcases exists_binade word with ⟨s, r, hword, hr, hfull⟩
  rw [hword, unitsOfWord_binade s r (by omega) hfull]
  -- A lower binade ends before this one begins; a higher one is spaced more widely.
  rcases Nat.lt_or_ge s shift with hlt | hge
  · left
    calc r * 2 ^ s < 2 * wordsPerBinade * 2 ^ s :=
          Nat.mul_lt_mul_of_pos_right hr (Nat.two_pow_pos s)
      _ = wordsPerBinade * 2 ^ (s + 1) := by rw [Nat.pow_succ]; ring
      _ ≤ wordsPerBinade * 2 ^ shift :=
          Nat.mul_le_mul_left _ (Nat.pow_le_pow_right (by decide) hlt)
  · right
    exact Nat.dvd_mul_left_of_dvd (Nat.pow_dvd_pow 2 hge) r

/-- The words nearest to a quotient of units, before the largest ones become infinite. -/
def nearestWord (num den : Nat) : Nat :=
  let shift := (num / den).log2 - 52
  shift * wordsPerBinade + roundDiv num (den * 2 ^ shift)

/-- What a ratio reads as is its nearest word, cut off at the infinite one. -/
theorem wordOfRatio_eq (num den : Nat) :
    wordOfRatio num den = min infinityWord (nearestWord (num * unitsPerOne) den) := by
  unfold wordOfRatio nearestWord
  simp only [Nat.pow_eq]

/-- The mantissa that rounding leaves fits its binade, and fills it above the lowest. -/
theorem mantissa_bounds (num den : Nat) :
    roundDiv num (den * 2 ^ ((num / den).log2 - 52)) ≤ 2 * wordsPerBinade ∧
      ((num / den).log2 - 52 = 0 ∨ wordsPerBinade * 2 ^ ((num / den).log2 - 52) ≤ num / den) := by
  have hpow : wordsPerBinade = 2 ^ 52 := by decide
  have htop : num / den < 2 ^ ((num / den).log2 - 52 + 53) :=
    Nat.lt_of_lt_of_le Nat.lt_log2_self (Nat.pow_le_pow_right (by decide) (by omega))
  constructor
  -- The quotient has no more bits than a mantissa, and rounding adds one unit at most.
  · have hquot : num / (den * 2 ^ ((num / den).log2 - 52)) < 2 ^ 53 := by
      rw [← Nat.div_div_eq_div_mul]
      refine Nat.div_lt_of_lt_mul ?_
      rw [← Nat.pow_add]
      exact htop
    have hup := roundDiv_le_div_succ num (den * 2 ^ ((num / den).log2 - 52))
    rw [hpow]
    omega
  · by_cases hlow : (num / den).log2 ≤ 52
    · left
      omega
    · right
      have hne : num / den ≠ 0 := by
        intro hzero
        rw [hzero] at hlow
        exact hlow (by decide)
      have hself := Nat.log2_self_le hne
      rw [hpow, ← Nat.pow_add]
      rw [show 52 + ((num / den).log2 - 52) = (num / den).log2 by omega]
      exact hself

/-- The mantissa that rounding leaves is full, unless it is in the lowest binade. -/
theorem mantissa_full (num den : Nat) :
    wordsPerBinade ≤ roundDiv num (den * 2 ^ ((num / den).log2 - 52)) ∨
      (num / den).log2 - 52 = 0 := by
  rcases (mantissa_bounds num den).2 with hzero | hfull
  · exact Or.inr hzero
  · left
    refine Nat.le_trans ?_ (div_le_roundDiv _ _)
    rw [← Nat.div_div_eq_div_mul]
    exact (Nat.le_div_iff_mul_le (Nat.two_pow_pos _)).mpr hfull

/-- The units of the nearest word are the rounded multiple of the spacing. -/
theorem unitsOfWord_nearestWord (num den : Nat) :
    unitsOfWord (nearestWord num den) * den
      = roundDiv num (den * 2 ^ ((num / den).log2 - 52))
        * (den * 2 ^ ((num / den).log2 - 52)) := by
  unfold nearestWord
  simp only
  rw [unitsOfWord_binade _ _ (mantissa_bounds num den).1 (mantissa_full num den)]
  ring

/-- No word is nearer to the quotient than the nearest one. Words below the quotient's
    binade are not on its grid, but its first word lies between them and the quotient. -/
theorem dist_nearestWord_le (num den word : Nat) (hden : 0 < den) :
    Nat.dist num (unitsOfWord (nearestWord num den) * den)
      ≤ Nat.dist num (unitsOfWord word * den) := by
  have hspacing : 0 < den * 2 ^ ((num / den).log2 - 52) :=
    Nat.mul_pos hden (Nat.two_pow_pos _)
  rw [unitsOfWord_nearestWord num den]
  rcases unitsOfWord_lt_or_dvd word ((num / den).log2 - 52) with hbelow | ⟨k, hk⟩
  · have hfirst := dist_roundDiv_le num _ wordsPerBinade hspacing
    rcases (mantissa_bounds num den).2 with hzero | hfull
    · -- In the lowest binade every count of units is on the grid.
      have hgrid := dist_roundDiv_le num _ (unitsOfWord word) hspacing
      rw [hzero, Nat.pow_zero, Nat.mul_one] at hgrid ⊢
      exact hgrid
    · -- The word lies below the first of the binade, and that below the quotient.
      have hnum : wordsPerBinade * (den * 2 ^ ((num / den).log2 - 52)) ≤ num := by
        have hmul := (Nat.le_div_iff_mul_le hden).mp hfull
        calc wordsPerBinade * (den * 2 ^ ((num / den).log2 - 52))
            = wordsPerBinade * 2 ^ ((num / den).log2 - 52) * den := by ring
          _ ≤ num := hmul
      have hword : unitsOfWord word * den
          ≤ wordsPerBinade * (den * 2 ^ ((num / den).log2 - 52)) := by
        calc unitsOfWord word * den
            ≤ wordsPerBinade * 2 ^ ((num / den).log2 - 52) * den :=
              Nat.mul_le_mul_right den hbelow.le
          _ = wordsPerBinade * (den * 2 ^ ((num / den).log2 - 52)) := by ring
      unfold Nat.dist at hfirst ⊢
      omega
  · -- On the grid, rounding the mantissa has chosen the nearest.
    have hgrid := dist_roundDiv_le num _ k hspacing
    have hmul : unitsOfWord word * den = k * (den * 2 ^ ((num / den).log2 - 52)) := by
      rw [hk]
      ring
    rw [hmul]
    exact hgrid

/-- The nearest word is at most any word that the quotient is at most. -/
theorem nearestWord_le (num den word : Nat) (hden : 0 < den)
    (h : num ≤ unitsOfWord word * den) : nearestWord num den ≤ word := by
  by_contra hlt
  have hnearest := dist_nearestWord_le num den word hden
  -- A greater word would be further away, on the far side of that one.
  have hmul : unitsOfWord word * den < unitsOfWord (nearestWord num den) * den :=
    Nat.mul_lt_mul_of_pos_right (unitsOfWord_strictMono (by omega)) hden
  unfold Nat.dist at hnearest
  omega

/-- The nearest word is at least any word that the quotient is at least. -/
theorem le_nearestWord (num den word : Nat) (hden : 0 < den)
    (h : unitsOfWord word * den ≤ num) : word ≤ nearestWord num den := by
  by_contra hlt
  have hnearest := dist_nearestWord_le num den word hden
  have hmul : unitsOfWord (nearestWord num den) * den < unitsOfWord word * den :=
    Nat.mul_lt_mul_of_pos_right (unitsOfWord_strictMono (by omega)) hden
  unfold Nat.dist at hnearest
  omega

theorem nearestWord_unitsOfWord (word den : Nat) (hden : 0 < den) :
    nearestWord (unitsOfWord word * den) den = word :=
  Nat.le_antisymm (nearestWord_le _ _ _ hden (Nat.le_refl _))
    (le_nearestWord _ _ _ hden (Nat.le_refl _))

theorem nearestWord_mul_mul (num den c : Nat) (hc : 0 < c) :
    nearestWord (num * c) (den * c) = nearestWord num den := by
  unfold nearestWord
  simp only [Nat.mul_div_mul_right _ _ hc]
  rw [Nat.mul_right_comm den c, roundDiv_mul_mul _ _ _ hc]

theorem wordOfRatio_mul_mul (num den c : Nat) (hc : 0 < c) :
    wordOfRatio (num * c) (den * c) = wordOfRatio num den := by
  rw [wordOfRatio_eq, wordOfRatio_eq, Nat.mul_right_comm, nearestWord_mul_mul _ _ _ hc]

theorem wordOfRatio_eq_of_units (num den word : Nat) (hden : 0 < den) (hword : word < infinityWord)
    (h : num * unitsPerOne = unitsOfWord word * den) : wordOfRatio num den = word := by
  rw [wordOfRatio_eq, h, nearestWord_unitsOfWord word den hden]
  exact Nat.min_eq_right hword.le

end Number

end PlanarMotion
