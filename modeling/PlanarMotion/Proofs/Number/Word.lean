import Mathlib
import PlanarMotion.Scalar.Double

/-!
# Doubles and Their Words

A double is known here through its magnitude word: its bits without the sign, read as one
number. The operations on doubles are defined by the core library on an unpacked form
instead. This module is the bridge. Packing what was unpacked gives the same bits, so a
double that is not one of the many that are no number is determined by its sign and its
word; and whether it is finite or below zero can be read from these two.

## Main definitions

* `magnitudeWord`: The bits of a double without its sign.
* `isNegative`: Whether a sign is that of a negative number.

## Theorems

* `pack_unpack_of_le`: Bits survive unpacking.
* `magnitudeWord_floatOfWord`, `ofFloat_floatOfWord`: A double made of a word has that word.
* `floatOfWord_magnitudeWord`: A double is made of its sign and its word.
* `isFinite_iff`: A double is finite exactly if its word is below the infinite one.
* `unpack_of_finite`: A finite double unpacks to the mantissa of its word.
* `zero_le_iff`, `lt_zero_iff`: Comparison with zero.
-/

namespace PlanarMotion

namespace Number

open Float.Model Float.Model.UnpackedFloat

theorem toNat_unpackMantissa (b : BitVec 64) :
    (@unpackMantissa .binary64 b).toNat = b.toNat % wordsPerBinade := by
  unfold unpackMantissa
  rw [BitVec.toNat_cast, BitVec.extractLsb_toNat, Nat.shiftRight_zero]
  rfl

theorem toNat_unpackExponent (b : BitVec 64) :
    (@unpackExponent .binary64 b).toNat = b.toNat / wordsPerBinade % 2048 := by
  unfold unpackExponent
  rw [BitVec.toNat_cast, BitVec.extractLsb_toNat, Nat.shiftRight_eq_div_pow]
  rfl

/-- The sign is what is left above all words. -/
theorem toNat_unpackSign (b : BitVec 64) :
    (@unpackSign .binary64 b).toNat = b.toNat / signWord := by
  have hb : b.toNat < 2 ^ 64 := b.isLt
  unfold unpackSign
  rw [BitVec.toNat_cast, BitVec.extractLsb_toNat, Nat.shiftRight_eq_div_pow]
  unfold signWord
  show b.toNat / 9223372036854775808 % 2 = b.toNat / 9223372036854775808
  omega

/-- The exponent that is all ones starts at the infinite word. -/
theorem unpackExponent_eq_top (b : BitVec 64) :
    @unpackExponent .binary64 b = -1#11 ↔ infinityWord ≤ b.toNat % signWord := by
  have hb : b.toNat < 2 ^ 64 := b.isLt
  rw [← BitVec.toNat_inj, toNat_unpackExponent]
  unfold infinityWord signWord wordsPerBinade
  show b.toNat / 4503599627370496 % 2048 = 2047 ↔ _
  omega

/-- The exponent that is zero belongs to the words of the lowest binade. -/
theorem unpackExponent_eq_zero (b : BitVec 64) :
    @unpackExponent .binary64 b = 0#11 ↔ b.toNat % signWord < wordsPerBinade := by
  have hb : b.toNat < 2 ^ 64 := b.isLt
  rw [← BitVec.toNat_inj, toNat_unpackExponent]
  unfold signWord wordsPerBinade
  show b.toNat / 4503599627370496 % 2048 = 0 ↔ _
  omega

theorem unpackMantissa_eq_zero (b : BitVec 64) :
    @unpackMantissa .binary64 b = 0#52 ↔ b.toNat % wordsPerBinade = 0 := by
  rw [← BitVec.toNat_inj, toNat_unpackMantissa]
  rfl

theorem toNat_one_append_fraction (m : BitVec 52) :
    (1#1 ++ m).toNat = wordsPerBinade + m.toNat := by
  have hm : m.toNat < 2 ^ 52 := m.isLt
  rw [BitVec.toNat_append, ← Nat.shiftLeft_add_eq_or_of_lt hm]
  rfl

/-- Packing undoes unpacking, except for the many patterns that are not numbers. -/
theorem pack_unpack_of_le (b : BitVec 64) (h : b.toNat % signWord ≤ infinityWord) :
    UnpackedFloat.pack .binary64 (UnpackedFloat.unpack .binary64 b) = b := by
  have hnumber : ¬ @isNaNBits .binary64 b = true := by
    rw [isNaNBits, decide_eq_true_eq]
    rintro ⟨htop, hfraction⟩
    -- Of the words with the top exponent the bound leaves only the infinite one.
    have hge := (unpackExponent_eq_top b).mp htop
    refine hfraction ((unpackMantissa_eq_zero b).mpr ?_)
    unfold infinityWord signWord wordsPerBinade at *
    omega
  rw [@UnpackedFloat.pack_unpack .binary64 b (by decide), if_neg hnumber]

/-- The word of a double without its sign. -/
def magnitudeWord (x : Float) : Nat :=
  x.toBits.toNat % signWord

theorem ofFloat_eq (x : Float) : Binary64.ofFloat x
    = ⟨decide (signWord ≤ x.toBits.toNat), magnitudeOfWord (magnitudeWord x)⟩ :=
  rfl

/-- Bits survive as long as they stand for a number. -/
theorem toBits_ofBits (bits : UInt64) (h : bits.toNat % signWord ≤ infinityWord) :
    (Float.ofBits bits).toBits = bits := by
  have hpack := pack_unpack_of_le bits.toBitVec h
  exact UInt64.toBitVec_inj.mp hpack

/-- The bits of the double of a word are the word and its sign. -/
theorem toNat_toBits_floatOfWord (negative : Bool) (word : Nat) (h : word ≤ infinityWord) :
    (floatOfWord negative word).toBits.toNat = word + if negative then signWord else 0 := by
  have hlt : word + (if negative then signWord else 0) < 2 ^ 64 := by
    unfold infinityWord wordsPerBinade at h
    unfold signWord
    split <;> omega
  have hnat : (UInt64.ofNat (word + if negative then signWord else 0)).toNat
      = word + if negative then signWord else 0 := by
    rw [UInt64.toNat_ofNat']
    exact Nat.mod_eq_of_lt hlt
  unfold floatOfWord
  rw [toBits_ofBits _ _, hnat]
  -- The sign is a whole multiple of the sign word, so the bound is that of the word.
  rw [hnat]
  refine Nat.le_trans (Nat.le_of_eq ?_) h
  unfold infinityWord wordsPerBinade at h
  unfold signWord
  split <;> omega

/-- The double of a word has that word. -/
theorem magnitudeWord_floatOfWord (negative : Bool) (word : Nat) (h : word ≤ infinityWord) :
    magnitudeWord (floatOfWord negative word) = word := by
  unfold magnitudeWord
  rw [toNat_toBits_floatOfWord negative word h]
  unfold infinityWord wordsPerBinade at h
  unfold signWord
  -- The sign word divides out whether it is there or not.
  split <;> omega

/-- The double of a word is read as its sign and the magnitude of the word. -/
theorem ofFloat_floatOfWord (negative : Bool) (word : Nat) (h : word ≤ infinityWord) :
    Binary64.ofFloat (floatOfWord negative word) = ⟨negative, magnitudeOfWord word⟩ := by
  have hsign : decide (signWord ≤ word + if negative then signWord else 0) = negative := by
    unfold infinityWord wordsPerBinade at h
    cases negative
    · simp only [Bool.false_eq_true, if_false, decide_eq_false_iff_not]
      unfold signWord
      omega
    · simp only [if_true, decide_eq_true_eq]
      omega
  -- A word stays below the sign bit, so only the sign decides which side the bits are on.
  rw [ofFloat_eq, magnitudeWord_floatOfWord negative word h,
    toNat_toBits_floatOfWord negative word h, hsign]

/-- A number is the double of its own word. -/
theorem floatOfWord_magnitudeWord (x : Float) (h : magnitudeWord x ≤ infinityWord) :
    floatOfWord (Binary64.ofFloat x).negative (magnitudeWord x) = x := by
  -- Doubles are equal if their bits are, since the bits are those of numbers.
  apply Float.toBits_inj.mp
  apply UInt64.toNat_inj.mp
  rw [toNat_toBits_floatOfWord _ _ h]
  have hlt : x.toBits.toNat < 2 ^ 64 := x.toBits.toNat_lt
  show x.toBits.toNat % signWord + (if decide (signWord ≤ x.toBits.toNat) then signWord else 0)
    = x.toBits.toNat
  unfold signWord
  split
  · rename_i hneg
    rw [decide_eq_true_eq] at hneg
    omega
  · rename_i hneg
    rw [decide_eq_true_eq] at hneg
    omega

/-- A double is finite if its word is below the infinite one. -/
theorem isFinite_iff (x : Float) : x.isFinite = true ↔ magnitudeWord x < infinityWord := by
  have hiff := unpackExponent_eq_top x.toBits.toBitVec
  have hunpack : x.isFinite
      = (UnpackedFloat.unpack .binary64 x.toBits.toBitVec).isFinite := rfl
  rw [hunpack, UnpackedFloat.unpack]
  unfold magnitudeWord
  simp only
  split
  · -- The top exponent holds the infinite words and those that are no number.
    rename_i htop
    have hge : infinityWord ≤ x.toBits.toNat % signWord := hiff.mp htop
    split
    · simp only [UnpackedFloat.isFinite, Bool.false_eq_true, false_iff, Nat.not_lt]
      exact hge
    · simp only [UnpackedFloat.isFinite, Bool.false_eq_true, false_iff, Nat.not_lt]
      exact hge
  · rename_i htop
    have hlt : x.toBits.toNat % signWord < infinityWord := Nat.lt_of_not_le fun hge =>
      htop (hiff.mpr hge)
    split
    · split <;> simp only [UnpackedFloat.isFinite, hlt]
    · simp only [UnpackedFloat.isFinite, hlt]

/-- Whether a sign is that of a negative number. -/
def isNegative : Sign → Bool
  | .negative => true
  | .positive => false

/-- Reading a double and unpacking it find the same sign. -/
theorem negative_eq (x : Float) : (Binary64.ofFloat x).negative
    = isNegative (Sign.ofBitVec (@unpackSign .binary64 x.toBits.toBitVec)) := by
  have hsign := toNat_unpackSign x.toBits.toBitVec
  have hlt : x.toBits.toNat < 2 ^ 64 := x.toBits.toNat_lt
  change _ = x.toBits.toNat / signWord at hsign
  rw [ofFloat_eq]
  unfold Sign.ofBitVec
  simp only
  unfold signWord at hsign ⊢
  split
  · rename_i hzero
    rw [hzero] at hsign
    change 0 = _ at hsign
    exact decide_eq_false (by omega)
  · rename_i hone
    refine decide_eq_true (Nat.le_of_not_lt fun hsmall => hone (BitVec.toNat_inj.mp ?_))
    rw [hsign]
    exact Nat.div_eq_of_lt hsmall

/-- What a finite double unpacks to: a zero at the word zero, and else the mantissa that its word
    has in its binade. -/
theorem unpack_of_finite (x : Float) (h : magnitudeWord x < infinityWord) :
    ∃ s, isNegative s = (Binary64.ofFloat x).negative ∧
      ((magnitudeWord x = 0 ∧ x.toModel.unpack = .zero s) ∨
        ∃ (shift mantissa : Nat) (exponent : Int) (hpos : 0 < mantissa),
          magnitudeWord x = shift * wordsPerBinade + mantissa ∧ exponent = shift - 1074 ∧
          mantissa < 2 * wordsPerBinade ∧ (wordsPerBinade ≤ mantissa ∨ shift = 0) ∧
          x.toModel.unpack = .finite s mantissa exponent hpos) := by
  have hexponent := toNat_unpackExponent x.toBits.toBitVec
  have hmantissa := toNat_unpackMantissa x.toBits.toBitVec
  have htop := unpackExponent_eq_top x.toBits.toBitVec
  have hlow := unpackExponent_eq_zero x.toBits.toBitVec
  have hfraction := unpackMantissa_eq_zero x.toBits.toBitVec
  change _ ↔ x.toBits.toNat % signWord < wordsPerBinade at hlow
  change _ ↔ infinityWord ≤ x.toBits.toNat % signWord at htop
  change _ ↔ x.toBits.toNat % wordsPerBinade = 0 at hfraction
  change _ = x.toBits.toNat / wordsPerBinade % 2048 at hexponent
  change _ = x.toBits.toNat % wordsPerBinade at hmantissa
  have hunpack : x.toModel.unpack = UnpackedFloat.unpack .binary64 x.toBits.toBitVec := rfl
  have hfits : x.toBits.toNat % wordsPerBinade < wordsPerBinade := Nat.mod_lt _ (by decide)
  -- The sign is the same for all forms; the form depends on exponent and fraction.
  refine ⟨_, (negative_eq x).symm, ?_⟩
  rw [hunpack, UnpackedFloat.unpack]
  unfold magnitudeWord at h ⊢
  simp only
  rw [if_neg (fun hexp => Nat.not_le_of_lt h (htop.mp hexp))]
  split
  · rename_i hexp
    have hsmall := hlow.mp hexp
    -- In the lowest binade the fraction is the whole word.
    have hword : x.toBits.toNat % signWord = x.toBits.toNat % wordsPerBinade := by
      unfold signWord wordsPerBinade at *
      omega
    split
    · rename_i hzero
      exact Or.inl ⟨hword.trans (hfraction.mp hzero), rfl⟩
    · -- A fraction that is not zero is a mantissa of its own in the lowest binade.
      rename_i hnonzero
      refine Or.inr ⟨0, _, _, ?_, ?_, ?_, ?_, Or.inr rfl, rfl⟩
      · exact Nat.pos_of_ne_zero fun hnat => hnonzero (BitVec.toNat_inj.mp hnat)
      · rw [Nat.zero_mul, Nat.zero_add, hmantissa, hword]
      · rw [hexp]
        rfl
      · omega
  · -- Above it the mantissa has a leading one.
    rename_i hexp
    have hlarge : wordsPerBinade ≤ x.toBits.toNat % signWord :=
      Nat.le_of_not_lt fun hsmall => hexp (hlow.mpr hsmall)
    have hone := toNat_one_append_fraction (@unpackMantissa .binary64 x.toBits.toBitVec)
    rw [hmantissa] at hone
    refine Or.inr ⟨x.toBits.toNat / wordsPerBinade % 2048 - 1, _, _, ?_, ?_, ?_, ?_, Or.inl ?_, rfl⟩
    · rw [hone]
      exact Nat.lt_of_lt_of_le (by decide) (Nat.le_add_right _ _)
    · rw [hone]
      unfold signWord wordsPerBinade at *
      omega
    · change ((@unpackExponent .binary64 x.toBits.toBitVec).toNat : Int) - (1023 + 52) = _
      rw [hexponent]
      unfold signWord wordsPerBinade at *
      omega
    · rw [hone]
      omega
    · rw [hone]
      exact Nat.le_add_right _ _

theorem unpack_zero : Double.zero.toModel.unpack = .zero .positive := by
  rfl

/-- A finite double is at least zero if it has no sign or is the other zero. -/
theorem zero_le_iff (x : Float) (h : magnitudeWord x < infinityWord) :
    Float.le Double.zero x = true
      ↔ (Binary64.ofFloat x).negative = false ∨ magnitudeWord x = 0 := by
  have hle : Float.le Double.zero x
      = UnpackedFloat.le Double.zero.toModel.unpack x.toModel.unpack := Bool.decide_eq_true
  rw [hle, unpack_zero]
  -- Zeros compare as equal whatever their signs; anything else by its sign alone.
  rcases unpack_of_finite x h with ⟨s, hsign, ⟨hword, hx⟩ |
    ⟨shift, mantissa, exponent, hpos, hword, -, -, -, hx⟩⟩
  · rw [hx]
    simp only [hword, or_true, iff_true]
    rfl
  · rw [hx, ← hsign]
    cases s with
    | negative =>
        have hne : magnitudeWord x ≠ 0 := by omega
        simp only [isNegative, hne, Bool.true_eq_false, or_self, iff_false]
        exact Bool.false_ne_true
    | positive => exact iff_of_true rfl (Or.inl rfl)

/-- Finite doubles are below zero or at least zero, and never both. -/
theorem lt_zero_iff (x : Float) (h : magnitudeWord x < infinityWord) :
    Float.lt x Double.zero = true ↔ ¬ Float.le Double.zero x = true := by
  have hlt : Float.lt x Double.zero
      = UnpackedFloat.lt x.toModel.unpack Double.zero.toModel.unpack := Bool.decide_eq_true
  have hle : Float.le Double.zero x
      = UnpackedFloat.le Double.zero.toModel.unpack x.toModel.unpack := Bool.decide_eq_true
  rw [hlt, hle, unpack_zero]
  rcases unpack_of_finite x h with ⟨s, -, ⟨-, hx⟩ | ⟨_, _, _, _, -, -, -, -, hx⟩⟩
  · rw [hx]
    cases s <;> decide
  · rw [hx]
    cases s
    · exact iff_of_true rfl Bool.false_ne_true
    · exact iff_of_false Bool.false_ne_true (not_not_intro rfl)

end Number

end PlanarMotion
