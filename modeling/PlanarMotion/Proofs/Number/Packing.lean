import PlanarMotion.Proofs.Number.Word
import PlanarMotion.Proofs.Number.Nearest

/-!
# What Rounding Packs

The core library rounds in steps. It keeps a mantissa with two more bits, shifts it right until
it fits, rounds it once, shifts again if the rounding has made it too long, and packs what is
left. This module says that all of it comes to one thing: the double that is made in the end has
the word nearest to the exact quotient, or the infinite one.

The two more bits of a quotient are those of `extendedOf`: whether the rest of the division is at
least half of the divisor, and whether it is neither that nor nothing. Shifting is dividing by
twice as much, so after any number of shifts the bits are still those of a quotient of the same
number, and rounding them is `roundDiv`. The second shift never rounds, because a mantissa that
has become too long is a power of two.

## Main definitions

* `extendedOf`: A quotient as a mantissa with two more bits.
* `packed`: The double of an unpacked form.

## Theorems

* `shiftRight_extendedOf`, `roundedMantissa_extendedOf`: Shifting divides, and rounding rounds.
* `roundDiv_scaled`: Rounding knows no units.
* `packed_finite`: A finite form packs to its word, or to the infinite one.
* `packed_roundWithAccuracy`: A rounded quotient packs to the nearest word.
-/

namespace PlanarMotion

namespace Number

open Float.Model Float.Model.UnpackedFloat

/-- A quotient as a mantissa with two more bits: whether the rest is at least one half, and
    whether it is neither that nor zero. -/
def extendedOf (num den : Nat) : ExtendedMantissa :=
  ⟨num / den, decide (den ≤ 2 * (num % den)),
    decide (2 * (num % den) ≠ 0 ∧ 2 * (num % den) ≠ den)⟩

/-- The bits of a rest that has been compared with one half. -/
theorem ofMantissaAndAccuracy_eq (num den : Nat) (hden : 0 < den) :
    ExtendedMantissa.ofMantissaAndAccuracy (num / den) (accuracyOfFraction (num % den) den)
      = extendedOf num den := by
  unfold accuracyOfFraction extendedOf
  -- The two bits tell apart the four answers of comparing the rest with one half.
  by_cases hzero : num % den = 0
  · rw [if_pos hzero, hzero]
    simp only [ExtendedMantissa.ofMantissaAndAccuracy, ExtendedMantissa.mk.injEq, true_and]
    exact ⟨(decide_eq_false (by omega)).symm, (decide_eq_false (by omega)).symm⟩
  · rw [if_neg hzero]
    rcases Nat.lt_trichotomy (2 * (num % den)) den with hlt | heq | hgt
    · rw [Nat.compare_eq_lt.mpr hlt]
      simp only [ExtendedMantissa.ofMantissaAndAccuracy, ExtendedMantissa.mk.injEq, true_and]
      exact ⟨(decide_eq_false (by omega)).symm, (decide_eq_true (by omega)).symm⟩
    · rw [Nat.compare_eq_eq.mpr heq]
      simp only [ExtendedMantissa.ofMantissaAndAccuracy, ExtendedMantissa.mk.injEq, true_and]
      exact ⟨(decide_eq_true (by omega)).symm, (decide_eq_false (by omega)).symm⟩
    · rw [Nat.compare_eq_gt.mpr hgt]
      simp only [ExtendedMantissa.ofMantissaAndAccuracy, ExtendedMantissa.mk.injEq, true_and]
      exact ⟨(decide_eq_true (by omega)).symm, (decide_eq_true (by omega)).symm⟩

/-- Rounding the bits of a quotient rounds the quotient. -/
theorem roundedMantissa_extendedOf (num den : Nat) (hden : 0 < den) :
    (extendedOf num den).roundedMantissa = roundDiv num den := by
  rw [← ofMantissaAndAccuracy_eq num den hden]
  unfold roundDiv accuracyOfFraction
  simp only
  by_cases hzero : num % den = 0
  · rw [if_pos hzero, if_neg (by omega)]
    rfl
  · rw [if_neg hzero]
    rcases Nat.lt_trichotomy (2 * (num % den)) den with hlt | heq | hgt
    · rw [Nat.compare_eq_lt.mpr hlt, if_neg (by omega)]
      rfl
    · -- A tie adds the last bit of the mantissa.
      rw [Nat.compare_eq_eq.mpr heq]
      change num / den + num / den % 2 = _
      split <;> omega
    · rw [Nat.compare_eq_gt.mpr hgt, if_pos (Or.inl hgt)]
      rfl

/-- Shifting the bits of a quotient halves the quotient. -/
theorem shiftRightOne_extendedOf (num den : Nat) (hden : 0 < den) :
    (extendedOf num den).shiftRightOne = extendedOf num (den * 2) := by
  have hmod : num % (den * 2) = num % den + den * (num / den % 2) := Nat.mod_mul
  have hrest : num % den < den := Nat.mod_lt num hden
  unfold extendedOf ExtendedMantissa.shiftRightOne
  rw [hmod, Nat.div_div_eq_div_mul]
  simp only [ExtendedMantissa.mk.injEq, true_and]
  -- The last bit of the quotient becomes the half, and all that was there before the rest.
  rcases Nat.mod_two_eq_zero_or_one (num / den) with hbit | hbit
  · rw [hbit, Nat.mul_zero, Nat.add_zero]
    constructor
    · rw [decide_eq_false (by omega)]
      rfl
    · rw [← Bool.decide_or]
      exact decide_eq_decide.mpr (by omega)
  · rw [hbit, Nat.mul_one]
    constructor
    · rw [decide_eq_true (by omega)]
      rfl
    · rw [← Bool.decide_or]
      exact decide_eq_decide.mpr (by omega)

theorem shiftRight_extendedOf (num den n : Nat) (hden : 0 < den) :
    extendedOf num den >>> n = extendedOf num (den * 2 ^ n) := by
  change n.repeat ExtendedMantissa.shiftRightOne _ = _
  induction n with
  | zero => rw [Nat.repeat, Nat.pow_zero, Nat.mul_one]
  | succ n ih =>
      -- One shift more halves what the shifts before have left.
      rw [Nat.repeat, ih, shiftRightOne_extendedOf _ _ (Nat.mul_pos hden (Nat.two_pow_pos n)),
        Nat.mul_assoc, Nat.pow_succ]

/-- The double of an unpacked form. -/
def packed (u : UnpackedFloat) : Float :=
  .ofModel (.pack u)

/-- Exponent and mantissa lie side by side below the sign, so their bits add up to a word. -/
theorem toNat_packComponents (sign : Sign) (exponent : BitVec 11) (mantissa : BitVec 52) :
    (packComponents .binary64 sign exponent mantissa).toNat
      = exponent.toNat * wordsPerBinade + mantissa.toNat
        + if isNegative sign then signWord else 0 := by
  have hexponent : exponent.toNat < 2 ^ 11 := exponent.isLt
  have hmantissa : mantissa.toNat < 2 ^ 52 := mantissa.isLt
  unfold packComponents
  rw [BitVec.toNat_append, BitVec.toNat_append, ← Nat.shiftLeft_add_eq_or_of_lt hexponent,
    ← Nat.shiftLeft_add_eq_or_of_lt hmantissa, Nat.shiftLeft_eq, Nat.shiftLeft_eq]
  unfold wordsPerBinade signWord
  cases sign
  · change (1 * 2 ^ 11 + exponent.toNat) * 2 ^ 52 + mantissa.toNat = _ + if true then _ else _
    rw [if_pos rfl]
    omega
  · change (0 * 2 ^ 11 + exponent.toNat) * 2 ^ 52 + mantissa.toNat = _ + if false then _ else _
    rw [if_neg Bool.false_ne_true]
    omega

/-- What packs to the bits of a word is the double of the word. -/
theorem packed_eq (u : UnpackedFloat) (negative : Bool) (word : Nat) (hword : word ≤ infinityWord)
    (h : (UnpackedFloat.pack .binary64 u).toNat = word + if negative then signWord else 0) :
    packed u = floatOfWord negative word := by
  apply Float.toBits_inj.mp
  apply UInt64.toNat_inj.mp
  rw [toNat_toBits_floatOfWord negative word hword]
  exact h

theorem packed_infinity (sign : Sign) :
    packed (.infinity sign) = floatOfWord (isNegative sign) infinityWord := by
  refine packed_eq _ _ _ (Nat.le_refl _) ?_
  rw [UnpackedFloat.pack, packedInfinity, toNat_packComponents]
  rfl

theorem packed_zero (sign : Sign) : packed (.zero sign) = floatOfWord (isNegative sign) 0 := by
  refine packed_eq _ _ _ (Nat.zero_le _) ?_
  rw [UnpackedFloat.pack, packedZero, toNat_packComponents]
  rfl

/-- A finite form that is in its binade packs to its word, or to the infinite one. -/
theorem packed_finite (sign : Sign) (mantissa shift : Nat) (exponent : Int)
    (hpos : 0 < mantissa) (hexponent : exponent = shift - 1074)
    (hfits : mantissa < 2 * wordsPerBinade) (hfull : wordsPerBinade ≤ mantissa ∨ shift = 0) :
    packed (.finite sign mantissa exponent hpos)
      = floatOfWord (isNegative sign) (min infinityWord (shift * wordsPerBinade + mantissa)) := by
  -- The exponent that is stored starts at one, for the lowest binade.
  have hbiased : (exponent + (Format.exponentBias .binary64 : Nat)
      + (Format.mantissaBitsWithoutImplicit .binary64 : Nat)).toNat = shift + 1 := by
    rw [hexponent]
    change ((shift : Int) - 1074 + 1023 + 52).toNat = _
    omega
  refine packed_eq _ _ _ (Nat.min_le_left _ _) ?_
  have hpow : wordsPerBinade = 2 ^ 52 := by decide
  rw [UnpackedFloat.pack]
  simp only
  rw [hbiased]
  change BitVec.toNat (if 2048 ≤ shift + 1 + 1 then packedInfinity .binary64 sign
    else if mantissa.log2 + 1 = 53
      then packComponents .binary64 sign (BitVec.ofNat 11 (shift + 1)) (BitVec.ofNat 52 mantissa)
    else packComponents .binary64 sign 0#11 (BitVec.ofNat 52 mantissa)) = _
  by_cases hover : 2048 ≤ shift + 1 + 1
  · rw [if_pos hover, packedInfinity, toNat_packComponents, Nat.min_eq_left]
    · rfl
    -- Past the last binade all words are the infinite one.
    · have hshift : 2046 * wordsPerBinade ≤ shift * wordsPerBinade :=
        Nat.mul_le_mul_right _ (by omega)
      unfold infinityWord
      omega
  · have hshift : shift * wordsPerBinade ≤ 2045 * wordsPerBinade :=
      Nat.mul_le_mul_right _ (by omega)
    rw [if_neg hover, Nat.min_eq_right (by unfold infinityWord; omega)]
    by_cases hlow : mantissa < wordsPerBinade
    · -- Only the lowest binade has a mantissa that does not fill it.
      have hzero : shift = 0 := by omega
      have hlog : mantissa.log2 < 52 :=
        (Nat.log2_lt hpos.ne').mpr (Nat.lt_of_lt_of_le hlow hpow.le)
      rw [if_neg (by omega), toNat_packComponents, hzero, BitVec.toNat_ofNat, BitVec.toNat_ofNat,
        Nat.mod_eq_of_lt (Nat.lt_of_lt_of_le hlow hpow.le)]
    -- A full mantissa loses its first bit to the exponent, which is one more binade.
    · have hlog : mantissa.log2 = 52 :=
        (Nat.log2_eq_iff hpos.ne').mpr ⟨by omega, by omega⟩
      rw [if_pos (by omega), toNat_packComponents, BitVec.toNat_ofNat, BitVec.toNat_ofNat]
      unfold wordsPerBinade at *
      omega

/-- The exponent that leaves a full mantissa, unless it would be below the lowest binade. -/
theorem targetExponent_eq (mantissa : Nat) (exponent : Int) :
    Format.targetExponent .binary64 (totalExponent mantissa exponent)
      = max ((mantissa.log2 : Int) + exponent - 52) (-1074) := by
  change max ((mantissa.log2 : Int) + 1 + exponent - 53) (-1074) = _
  omega

theorem log2_div_two_pow (n k : Nat) : (n / 2 ^ k).log2 = n.log2 - k := by
  rw [Nat.log2_eq_log_two, Nat.log2_eq_log_two, Nat.log_div_base_pow]

/-- The binade of a quotient that has been scaled to units. -/
theorem log2_scaled (num den : Nat) (exponent : Int)
    (hfine : 52 ≤ (num / den).log2 ∨ exponent ≤ -1074) :
    (num * 2 ^ (exponent + 1074).toNat / (den * 2 ^ (-(exponent + 1074)).toNat)).log2 - 52
      = (max ((num / den).log2 + exponent - 52) (-1074) + 1074).toNat := by
  by_cases hlow : exponent ≤ -1074
  · have hzero : (exponent + 1074).toNat = 0 := by omega
    rw [hzero, Nat.pow_zero, Nat.mul_one, ← Nat.div_div_eq_div_mul, log2_div_two_pow]
    omega
  · have hzero : (-(exponent + 1074)).toNat = 0 := by omega
    -- Scaling back gives the quotient that was there, whose binade is known not to be low.
    have hback := log2_div_two_pow (num * 2 ^ (exponent + 1074).toNat / den)
      (exponent + 1074).toNat
    rw [Nat.div_div_eq_div_mul, Nat.mul_div_mul_right _ _ (Nat.two_pow_pos _)] at hback
    rw [hzero, Nat.pow_zero, Nat.mul_one]
    omega

/-- The mantissa of a quotient that has been scaled to units is rounded where a full one is
    left of the quotient itself. -/
theorem roundDiv_scaled (num den : Nat) (exponent : Int)
    (hfine : 52 ≤ (num / den).log2 ∨ exponent ≤ -1074) (shift : Nat)
    (hshift : max (((num / den).log2 : Int) + exponent - 52) (-1074) = shift - 1074) :
    roundDiv (num * 2 ^ (exponent + 1074).toNat) (den * 2 ^ (-(exponent + 1074)).toNat * 2 ^ shift)
      = roundDiv num (den * 2 ^ (shift - 1074 - exponent).toNat) := by
  by_cases hlow : exponent ≤ -1074
  · have hzero : (exponent + 1074).toNat = 0 := by omega
    rw [hzero, Nat.pow_zero, Nat.mul_one, Nat.mul_assoc, ← Nat.pow_add,
      show (-(exponent + 1074)).toNat + shift = (shift - 1074 - exponent).toNat by omega]
  · have hzero : (-(exponent + 1074)).toNat = 0 := by omega
    -- Above the lowest binade the scaling has multiplied both by the same power of two.
    have hsplit : 2 ^ shift
        = 2 ^ (shift - 1074 - exponent).toNat * 2 ^ (exponent + 1074).toNat := by
      rw [← Nat.pow_add]
      congr 1
      omega
    rw [hzero, Nat.pow_zero, Nat.mul_one, hsplit, ← Nat.mul_assoc,
      roundDiv_mul_mul _ _ _ (Nat.two_pow_pos _)]

/-- A mantissa that fits is not shifted again. -/
theorem shiftToTargetExponent_of_lt (mantissa shift : Nat) (h : mantissa < 2 * wordsPerBinade) :
    shiftToTargetExponent .binary64 mantissa (shift - 1074) .exact
      = (⟨mantissa, false, false⟩, (shift : Int) - 1074) := by
  have hlog : mantissa.log2 ≤ 52 := by
    rcases Nat.eq_zero_or_pos mantissa with hzero | hpos
    · rw [hzero]
      decide
    · exact Nat.le_of_lt_succ ((Nat.log2_lt hpos.ne').mpr (Nat.lt_of_lt_of_le h (by decide)))
  unfold shiftToTargetExponent shiftToExponent
  rw [targetExponent_eq]
  simp only
  rw [show (max ((mantissa.log2 : Int) + (shift - 1074) - 52) (-1074) - (shift - 1074)).toNat = 0
    by omega, Int.natCast_zero, Int.add_zero]
  rfl

/-- A mantissa that has become too long is shifted once, and nothing is lost. -/
theorem shiftToTargetExponent_of_eq (shift : Nat) :
    shiftToTargetExponent .binary64 (2 * wordsPerBinade) (shift - 1074) .exact
      = (⟨wordsPerBinade, false, false⟩, ((shift + 1 : Nat) : Int) - 1074) := by
  have hlog : (2 * wordsPerBinade).log2 = 53 := by decide
  unfold shiftToTargetExponent shiftToExponent
  rw [targetExponent_eq, hlog]
  simp only
  rw [show (max (((53 : Nat) : Int) + (shift - 1074) - 52) (-1074) - (shift - 1074)).toNat = 1
    by omega, show (shift : Int) - 1074 + ((1 : Nat) : Int) = ((shift + 1 : Nat) : Int) - 1074
    by omega]
  rfl

/-- What the first shift and the rounding after it leave. -/
theorem shiftToTargetExponent_extendedOf (num den : Nat) (exponent : Int) (hden : 0 < den)
    (hfine : 52 ≤ (num / den).log2 ∨ exponent ≤ -1074) (shift : Nat)
    (hshift : max (((num / den).log2 : Int) + exponent - 52) (-1074) = shift - 1074) :
    shiftToTargetExponent .binary64 (num / den) exponent (accuracyOfFraction (num % den) den)
      = (extendedOf num (den * 2 ^ (shift - 1074 - exponent).toNat), (shift : Int) - 1074) := by
  unfold shiftToTargetExponent shiftToExponent
  rw [targetExponent_eq, hshift]
  simp only
  rw [ofMantissaAndAccuracy_eq num den hden, shiftRight_extendedOf num den _ hden]
  rw [show exponent + (((shift : Int) - 1074 - exponent).toNat : Int) = shift - 1074 by omega]

/-- A rounded quotient packs to the word nearest to it, or to the infinite one. The quotient
    must be fine enough, since rounding never adds bits to it. -/
theorem packed_roundWithAccuracy (sign : Sign) (num den : Nat) (exponent : Int) (hden : 0 < den)
    (hfine : 52 ≤ (num / den).log2 ∨ exponent ≤ -1074) :
    packed (roundWithAccuracy .binary64 sign (num / den) exponent
        (accuracyOfFraction (num % den) den))
      = floatOfWord (isNegative sign) (min infinityWord
          (nearestWord (num * 2 ^ (exponent + 1074).toNat)
            (den * 2 ^ (-(exponent + 1074)).toNat))) := by
  -- The exponent to be reached is that of a binade, whose number is `shift`.
  obtain ⟨shift, hshift⟩ : ∃ shift : Nat,
      max (((num / den).log2 : Int) + exponent - 52) (-1074) = shift - 1074 :=
    ⟨(max (((num / den).log2 : Int) + exponent - 52) (-1074) + 1074).toNat, by omega⟩
  -- So the binade, the rounded mantissa and its bounds are those of the nearest word.
  have hbinade := log2_scaled num den exponent hfine
  rw [hshift, show ((shift : Int) - 1074 + 1074).toNat = shift by omega] at hbinade
  have hrounded := roundDiv_scaled num den exponent hfine shift hshift
  have hfits := (mantissa_bounds (num * 2 ^ (exponent + 1074).toNat)
    (den * 2 ^ (-(exponent + 1074)).toNat)).1
  have hfull := mantissa_full (num * 2 ^ (exponent + 1074).toNat)
    (den * 2 ^ (-(exponent + 1074)).toNat)
  rw [hbinade, hrounded] at hfits hfull
  rw [nearestWord, hbinade, hrounded, roundWithAccuracy,
    shiftToTargetExponent_extendedOf num den exponent hden hfine shift hshift]
  simp only
  rw [roundedMantissa_extendedOf _ _ (Nat.mul_pos hden (Nat.two_pow_pos _))]
  generalize roundDiv num (den * 2 ^ (shift - 1074 - exponent).toNat) = mantissa at hfits hfull ⊢
  by_cases hlong : mantissa = 2 * wordsPerBinade
  · -- The next binade starts where this one ends.
    have hne : ¬ wordsPerBinade = 0 := by decide
    rw [hlong, shiftToTargetExponent_of_eq, dif_neg hne,
      packed_finite sign wordsPerBinade (shift + 1) _ (by decide) rfl (by decide)
        (Or.inl (Nat.le_refl _)), Nat.add_mul, Nat.one_mul, Nat.add_assoc, ← Nat.two_mul]
  · rw [shiftToTargetExponent_of_lt _ _ (by omega)]
    by_cases hzero : mantissa = 0
    -- Only the lowest binade rounds to nothing.
    · have hlow : shift = 0 := hfull.resolve_left (by rw [hzero]; decide)
      rw [dif_pos hzero, packed_zero, hzero, hlow]
      rfl
    · rw [dif_neg hzero, packed_finite sign mantissa shift _ _ rfl (by omega) hfull]

end Number

end PlanarMotion
