import PlanarMotion.Proofs.Number.Packing
import PlanarMotion.Proofs.Number.Thousandths

/-!
# Arithmetic on Counts of Units

A double that is a number has a place on the line, counted in units with a sign. Finite doubles
count what they are; the infinite ones are put where the first word is that they have taken the
place of, which is beyond all others. On these places the four operations are exact arithmetic
followed by one rounding, and that is the whole of what is known about them here.

`RoundsTo` says it of one double: it is the word nearest to a quotient of counts, with the sign
of the quotient, or the infinite word. It does not say what the sign of a zero is, and no use is
made of that. A bound on the quotient that is itself a word is then a bound on the double, since
rounding does not jump over a word.

## Main definitions

* `rank`: The place of a double on the line.
* `HasUnits`: An unpacked form that is in its binade, and what it counts.
* `RoundsTo`: A double that is a rounded quotient.

## Theorems

* `hasUnits_unpack`: A finite double unpacks to what it counts.
* `RoundsTo.magnitudeWord_le`, `RoundsTo.le_magnitudeWord`: Rounding does not jump over a word.
* `roundsTo_add`, `roundsTo_sub`, `roundsTo_mul`, `roundsTo_div`: The operations.
-/

namespace PlanarMotion

namespace Number

open Float.Model Float.Model.UnpackedFloat

/-- A count with a sign. -/
def withSign (negative : Bool) (n : Nat) : Int :=
  if negative then -n else n

/-- The place of a double on the line, in units. An infinite one is beyond all others. -/
def rank (x : Float) : Int :=
  withSign (Binary64.ofFloat x).negative (unitsOfWord (magnitudeWord x))

/-- An unpacked form that is in its binade, and what it counts. -/
inductive HasUnits : UnpackedFloat → Int → Prop where
  /-- A zero counts nothing. -/
  | zero (sign : Sign) : HasUnits (.zero sign) 0
  /-- A finite form counts its mantissa, moved up by its binade. -/
  | finite (sign : Sign) (mantissa shift : Nat) (exponent : Int) (hpos : 0 < mantissa)
      (hexponent : exponent = shift - 1074) (hfits : mantissa < 2 * wordsPerBinade)
      (hfull : wordsPerBinade ≤ mantissa ∨ shift = 0) :
      HasUnits (.finite sign mantissa exponent hpos)
        (withSign (isNegative sign) (mantissa * 2 ^ shift))

/-- A double that is the word nearest to a quotient of counts, with its sign. -/
def RoundsTo (x : Float) (num : Int) (den : Nat) : Prop :=
  ∃ negative, withSign negative num.natAbs = num ∧
    x = floatOfWord negative (min infinityWord (nearestWord num.natAbs den))

theorem withSign_zero (negative : Bool) : withSign negative 0 = 0 := by
  cases negative <;> rfl

theorem natAbs_withSign (negative : Bool) (n : Nat) : (withSign negative n).natAbs = n := by
  unfold withSign
  cases negative
  · exact Int.natAbs_natCast n
  · exact (Int.natAbs_neg _).trans (Int.natAbs_natCast n)

theorem withSign_mul_natCast (negative : Bool) (n k : Nat) :
    withSign negative n * k = withSign negative (n * k) := by
  cases negative
  · exact (Int.natCast_mul n k).symm
  · exact (Int.neg_mul _ _).trans (congrArg Neg.neg (Int.natCast_mul n k).symm)

/-- Signs multiply apart from what they stand before. -/
theorem withSign_mul (s t : Sign) (m n : Nat) :
    withSign (isNegative s) m * withSign (isNegative t) n
      = withSign (isNegative (s * t)) (m * n) := by
  cases t with
  | positive => cases s <;> exact withSign_mul_natCast _ m n
  | negative =>
      change withSign (isNegative s) m * -(n : Int) = _
      rw [Int.mul_neg, withSign_mul_natCast]
      cases s
      · exact Int.neg_neg _
      · rfl

theorem rank_floatOfWord (negative : Bool) (word : Nat) (h : word ≤ infinityWord) :
    rank (floatOfWord negative word) = withSign negative (unitsOfWord word) := by
  rw [rank, ofFloat_floatOfWord negative word h, magnitudeWord_floatOfWord negative word h]

/-- A finite double unpacks to what it counts. -/
theorem hasUnits_unpack (x : Float) (h : magnitudeWord x < infinityWord) :
    HasUnits x.toModel.unpack (rank x) := by
  rcases unpack_of_finite x h with ⟨s, hsign, ⟨hword, hx⟩ |
    ⟨shift, mantissa, exponent, hpos, hword, hexponent, hfits, hfull, hx⟩⟩
  · rw [hx, rank, hword, show unitsOfWord 0 = 0 by decide, withSign_zero]
    exact .zero s
  -- A word in a binade counts its mantissa, moved up by the binade.
  · rw [hx, rank, ← hsign, hword, unitsOfWord_binade shift mantissa hfits.le hfull]
    exact .finite s mantissa shift exponent hpos hexponent hfits hfull

theorem nearestWord_congr (num den n d : Nat) (hden : 0 < den) (hd : 0 < d)
    (h : n * den = num * d) : nearestWord n d = nearestWord num den := by
  rw [← nearestWord_mul_mul n d den hden, ← nearestWord_mul_mul num den d hd, h, Nat.mul_comm d]

/-- A rounded quotient is that of any counts of the same ratio. -/
theorem roundsTo_of_ratio (negative : Bool) (n d m den : Nat) (hd : 0 < d) (hden : 0 < den)
    (h : n * den = m * d) :
    RoundsTo (floatOfWord negative (min infinityWord (nearestWord n d))) (withSign negative m)
      den := by
  refine ⟨negative, ?_, ?_⟩
  · rw [natAbs_withSign]
  · rw [natAbs_withSign, nearestWord_congr m den n d hden hd h]

theorem RoundsTo.magnitudeWord_eq {x : Float} {num : Int} {den : Nat} (h : RoundsTo x num den) :
    magnitudeWord x = min infinityWord (nearestWord num.natAbs den) := by
  rcases h with ⟨negative, -, rfl⟩
  exact magnitudeWord_floatOfWord negative _ (Nat.min_le_left _ _)

theorem RoundsTo.rank_eq {x : Float} {num : Int} {den : Nat} (h : RoundsTo x num den) :
    ∃ negative, withSign negative num.natAbs = num ∧
      rank x = withSign negative (unitsOfWord (magnitudeWord x)) := by
  have hword := h.magnitudeWord_eq
  rcases h with ⟨negative, hsign, rfl⟩
  exact ⟨negative, hsign, by rw [rank_floatOfWord _ _ (Nat.min_le_left _ _), hword]⟩

/-- Rounding does not jump over a word. -/
theorem RoundsTo.magnitudeWord_le {x : Float} {num : Int} {den : Nat} (h : RoundsTo x num den)
    (hden : 0 < den) (word : Nat) (hbound : num.natAbs ≤ unitsOfWord word * den) :
    magnitudeWord x ≤ word := by
  rw [h.magnitudeWord_eq]
  exact Nat.le_trans (Nat.min_le_right _ _) (nearestWord_le _ _ _ hden hbound)

theorem RoundsTo.le_magnitudeWord {x : Float} {num : Int} {den : Nat} (h : RoundsTo x num den)
    (hden : 0 < den) (word : Nat) (hword : word ≤ infinityWord)
    (hbound : unitsOfWord word * den ≤ num.natAbs) : word ≤ magnitudeWord x := by
  rw [h.magnitudeWord_eq]
  exact Nat.le_min.mpr ⟨hword, le_nearestWord _ _ _ hden hbound⟩

/-- Rounding does not change a sign. -/
theorem RoundsTo.rank_nonneg {x : Float} {num : Int} {den : Nat} (h : RoundsTo x num den)
    (hden : 0 < den) (hnum : 0 ≤ num) : 0 ≤ rank x := by
  have hword := h.magnitudeWord_le hden 0
  rcases h.rank_eq with ⟨negative, hsign, hrank⟩
  rw [hrank]
  cases negative with
  | false => exact Int.natCast_nonneg _
  | true =>
      -- A negative sign is that of a zero here, and rounds to one.
      unfold withSign at hsign
      simp only [if_true] at hsign
      rw [Nat.le_zero.mp (hword (by omega))]
      decide

/-- Rounding a mantissa on a binade packs to the word nearest to what it counts. -/
theorem packed_round (sign : Sign) (mantissa shift : Nat) (hpos : 0 < mantissa) :
    packed (UnpackedFloat.round .binary64 sign mantissa (shift - 1074))
      = floatOfWord (isNegative sign)
          (min infinityWord (nearestWord (mantissa * 2 ^ shift) 1)) := by
  unfold UnpackedFloat.round decreaseExponent
  rw [targetExponent_eq]
  simp only
  -- The mantissa is first moved up by as many bits as it lacks, so that rounding has all it keeps.
  generalize hk : ((shift : Int) - 1074
    - max ((mantissa.log2 : Int) + (shift - 1074) - 52) (-1074)).toNat = k
  have hlog : (mantissa * 2 ^ k).log2 = mantissa.log2 + k := by
    have hback := log2_div_two_pow (mantissa * 2 ^ k) k
    rw [Nat.mul_div_cancel _ (Nat.two_pow_pos k)] at hback
    have hle : k ≤ (mantissa * 2 ^ k).log2 :=
      (Nat.le_log2 (Nat.mul_pos hpos (Nat.two_pow_pos k)).ne').mpr
        (Nat.le_mul_of_pos_left _ hpos)
    omega
  -- From there on it is the rounding of a quotient by one.
  have hround := packed_roundWithAccuracy sign (mantissa * 2 ^ k) 1 (shift - 1074 - k) Nat.one_pos
    (by rw [Nat.div_one, hlog]; omega)
  rw [Nat.div_one, Nat.mod_one, show ((shift : Int) - 1074 - k + 1074).toNat = shift - k by omega,
    show (-((shift : Int) - 1074 - k + 1074)).toNat = 0 by omega, Nat.mul_assoc, ← Nat.pow_add,
    show k + (shift - k) = shift by omega] at hround
  rw [Nat.shiftLeft_eq]
  exact hround

theorem apply_eq (sign : Sign) (n : Nat) : sign.apply n = withSign (isNegative sign) n := by
  cases sign <;> rfl

/-- A mantissa with a sign of its own is rounded by its size and given its sign back. -/
theorem packed_normalize (mantissa : Int) (shift : Nat) :
    RoundsTo (packed (normalize .binary64 mantissa (shift - 1074) .positive))
      (mantissa * 2 ^ shift) 1 := by
  unfold UnpackedFloat.normalize
  rcases Int.lt_trichotomy mantissa 0 with hlt | heq | hgt
  · have hcount : mantissa * 2 ^ shift = withSign true ((-mantissa).toNat * 2 ^ shift) := by
      unfold withSign
      simp only [if_true]
      push_cast
      rw [Int.toNat_of_nonneg (by omega), Int.neg_mul, Int.neg_neg]
    rw [compare_lt_iff_lt.mpr hlt, hcount]
    simp only
    rw [packed_round _ _ _ (by omega)]
    exact roundsTo_of_ratio true _ 1 _ 1 Nat.one_pos Nat.one_pos rfl
  -- The sign of a zero is free, and the positive one is chosen.
  · rw [heq, Int.zero_mul, ← withSign_zero false]
    change RoundsTo (packed (.zero .positive)) _ 1
    rw [packed_zero]
    exact roundsTo_of_ratio false 0 1 0 1 Nat.one_pos Nat.one_pos rfl
  · have hcount : mantissa * 2 ^ shift = withSign false (mantissa.toNat * 2 ^ shift) := by
      unfold withSign
      simp only [Bool.false_eq_true, if_false]
      push_cast
      rw [Int.toNat_of_nonneg (by omega)]
    rw [compare_gt_iff_gt.mpr hgt, hcount]
    simp only
    rw [packed_round _ _ _ (by omega)]
    exact roundsTo_of_ratio false _ 1 _ 1 Nat.one_pos Nat.one_pos rfl

/-- A form that is in its binade is not rounded. -/
theorem roundsTo_packed (u : UnpackedFloat) (n : Int) (h : HasUnits u n) :
    RoundsTo (packed u) n 1 := by
  cases h with
  | zero sign =>
      rw [packed_zero, ← withSign_zero (isNegative sign)]
      exact roundsTo_of_ratio _ 0 1 0 1 Nat.one_pos Nat.one_pos rfl
  | finite sign mantissa shift exponent hpos hexponent hfits hfull =>
      rw [packed_finite sign mantissa shift exponent hpos hexponent hfits hfull]
      refine ⟨isNegative sign, by rw [natAbs_withSign], ?_⟩
      rw [natAbs_withSign, ← unitsOfWord_binade shift mantissa hfits.le hfull]
      -- A word is the nearest one to what it counts.
      have hself := nearestWord_unitsOfWord (shift * wordsPerBinade + mantissa) 1 Nat.one_pos
      rw [Nat.mul_one] at hself
      rw [hself]

/-- The sum of two forms, once their exponents agree. -/
theorem roundsTo_add_units (u v : UnpackedFloat) (m n : Int) (hu : HasUnits u m)
    (hv : HasUnits v n) : RoundsTo (packed (.add .binary64 u v)) (m + n) 1 := by
  cases hu with
  | zero sign =>
      rw [Int.zero_add]
      cases hv with
      | zero sign' =>
          -- The sign of the zero depends on both signs; its count does not.
          have hzero : ∀ s, RoundsTo (packed (.zero s)) 0 1 :=
            fun s => roundsTo_packed _ _ (.zero s)
          unfold UnpackedFloat.add
          simp only
          split
          · exact hzero _
          · exact hzero _
      | finite sign' mantissa shift exponent hpos hexponent hfits hfull =>
          exact roundsTo_packed _ _
            (.finite sign' mantissa shift exponent hpos hexponent hfits hfull)
  | finite sign mantissa shift exponent hpos hexponent hfits hfull =>
      cases hv with
      | zero sign' =>
          rw [Int.add_zero]
          exact roundsTo_packed _ _
            (.finite sign mantissa shift exponent hpos hexponent hfits hfull)
      | finite sign' mantissa' shift' exponent' hpos' hexponent' hfits' hfull' =>
          -- Both mantissas are moved to the lower of the two binades, where they are added exactly.
          have hmin : min exponent exponent' = ((min shift shift' : Nat) : Int) - 1074 := by omega
          unfold UnpackedFloat.add decreaseExponent
          simp only
          rw [hmin, apply_eq, apply_eq, Nat.shiftLeft_eq, Nat.shiftLeft_eq,
            show (exponent - (((min shift shift' : Nat) : Int) - 1074)).toNat
              = shift - min shift shift' by omega,
            show (exponent' - (((min shift shift' : Nat) : Int) - 1074)).toNat
              = shift' - min shift shift' by omega]
          have hround := packed_normalize (withSign (isNegative sign)
            (mantissa * 2 ^ (shift - min shift shift')) + withSign (isNegative sign')
            (mantissa' * 2 ^ (shift' - min shift shift'))) (min shift shift')
          -- Moved back, each is what it counted before.
          have hback : ∀ (s : Bool) (m k : Nat), min shift shift' ≤ k →
              withSign s (m * 2 ^ (k - min shift shift')) * 2 ^ min shift shift'
                = withSign s (m * 2 ^ k) := by
            intro s m k hk
            have hpow := withSign_mul_natCast s (m * 2 ^ (k - min shift shift'))
              (2 ^ min shift shift')
            rw [Nat.mul_assoc, ← Nat.pow_add, Nat.sub_add_cancel hk] at hpow
            exact_mod_cast hpow
          rw [Int.add_mul, hback _ _ _ (Nat.min_le_left _ _), hback _ _ _ (Nat.min_le_right _ _)]
            at hround
          exact hround

theorem roundsTo_add (x y : Float) (hx : magnitudeWord x < infinityWord)
    (hy : magnitudeWord y < infinityWord) : RoundsTo (x + y) (rank x + rank y) 1 :=
  roundsTo_add_units _ _ _ _ (hasUnits_unpack x hx) (hasUnits_unpack y hy)

/-- An opposite form counts the opposite. -/
theorem hasUnits_neg (u : UnpackedFloat) (n : Int) (h : HasUnits u n) : HasUnits u.neg (-n) := by
  cases h with
  | zero sign => exact .zero (-sign)
  | finite sign mantissa shift exponent hpos hexponent hfits hfull =>
      have hneg : -withSign (isNegative sign) (mantissa * 2 ^ shift)
          = withSign (isNegative (-sign)) (mantissa * 2 ^ shift) := by
        cases sign
        · exact Int.neg_neg _
        · rfl
      rw [hneg]
      exact .finite (-sign) mantissa shift exponent hpos hexponent hfits hfull

/-- A difference is a sum with the opposite, also where it is none of finite forms. -/
theorem sub_eq_add (u v : UnpackedFloat) :
    UnpackedFloat.sub .binary64 u v = UnpackedFloat.add .binary64 u v.neg := by
  cases u with
  | finite s m e hm =>
      cases v with
      | finite s' m' e' hm' =>
          have hneg : ∀ n : Int, (-s').apply n = -s'.apply n := by
            intro n
            cases s'
            · exact (Int.neg_neg n).symm
            · rfl
          unfold UnpackedFloat.sub UnpackedFloat.neg UnpackedFloat.add
          simp only [hneg, Int.sub_eq_add_neg]
      | _ => rfl
  | _ => cases v <;> rfl

theorem roundsTo_sub (x y : Float) (hx : magnitudeWord x < infinityWord)
    (hy : magnitudeWord y < infinityWord) : RoundsTo (x - y) (rank x - rank y) 1 := by
  have hdifference : x - y = packed (.sub .binary64 x.toModel.unpack y.toModel.unpack) := rfl
  rw [hdifference, sub_eq_add, Int.sub_eq_add_neg]
  exact roundsTo_add_units _ _ _ _ (hasUnits_unpack x hx) (hasUnits_neg _ _ (hasUnits_unpack y hy))

/-- A mantissa that fills its binade has as many bits as rounding keeps. -/
theorem log2_of_full (n : Nat) (h : wordsPerBinade ≤ n) : 52 ≤ n.log2 :=
  (Nat.le_log2 (Nat.ne_of_gt (Nat.lt_of_lt_of_le (by decide) h))).mpr h

/-- The product of two forms, which is rounded from the product of their mantissas. -/
theorem roundsTo_mul_units (u v : UnpackedFloat) (m n : Int) (hu : HasUnits u m)
    (hv : HasUnits v n) : RoundsTo (packed (.mul .binary64 u v)) (m * n) unitsPerOne := by
  have hzero : ∀ s, RoundsTo (packed (.zero s)) 0 unitsPerOne := by
    intro s
    rw [packed_zero, ← withSign_zero (isNegative s)]
    exact roundsTo_of_ratio _ 0 1 0 _ Nat.one_pos unitsPerOne_pos (Nat.zero_mul _)
  cases hu with
  | zero sign =>
      rw [Int.zero_mul]
      cases hv <;> exact hzero _
  | finite sign mantissa shift exponent hpos hexponent hfits hfull =>
      cases hv with
      | zero sign' =>
          rw [Int.mul_zero]
          exact hzero _
      | finite sign' mantissa' shift' exponent' hpos' hexponent' hfits' hfull' =>
          -- One full mantissa makes the product long enough; two that are not full are so low that
          -- the product lies below the lowest binade.
          have hfine : 52 ≤ (mantissa * mantissa').log2 ∨ exponent + exponent' ≤ -1074 := by
            rcases hfull with hfull | hlow
            · left
              exact log2_of_full _ (Nat.le_trans hfull (Nat.le_mul_of_pos_right _ hpos'))
            · rcases hfull' with hfull' | hlow'
              · left
                exact log2_of_full _ (Nat.le_trans hfull' (Nat.le_mul_of_pos_left _ hpos))
              · right
                omega
          have hround := packed_roundWithAccuracy (sign * sign') (mantissa * mantissa') 1
            (exponent + exponent') Nat.one_pos (by rw [Nat.div_one]; exact hfine)
          rw [Nat.div_one, Nat.mod_one] at hround
          rw [withSign_mul]
          change RoundsTo (packed (roundWithAccuracy .binary64 (sign * sign')
            (mantissa * mantissa') (exponent + exponent') (accuracyOfFraction 0 1))) _ _
          rw [hround]
          refine roundsTo_of_ratio _ _ _ _ _ (by positivity) unitsPerOne_pos ?_
          -- A product counts units of units, so one factor of units is divided out.
          have hsum : (exponent + exponent' + 1074).toNat + 1074
              = shift + shift' + (-(exponent + exponent' + 1074)).toNat := by omega
          generalize (exponent + exponent' + 1074).toNat = a at hsum ⊢
          generalize (-(exponent + exponent' + 1074)).toNat = b at hsum ⊢
          calc mantissa * mantissa' * 2 ^ a * unitsPerOne
              = mantissa * mantissa' * 2 ^ (a + 1074) := by
                rw [Nat.mul_assoc, two_pow_mul_unitsPerOne]
            _ = mantissa * 2 ^ shift * (mantissa' * 2 ^ shift') * (1 * 2 ^ b) := by
                rw [hsum, Nat.pow_add, Nat.pow_add]
                ring

theorem roundsTo_mul (x y : Float) (hx : magnitudeWord x < infinityWord)
    (hy : magnitudeWord y < infinityWord) : RoundsTo (x * y) (rank x * rank y) unitsPerOne :=
  roundsTo_mul_units _ _ _ _ (hasUnits_unpack x hx) (hasUnits_unpack y hy)

/-- A dividend with more bits than the divisor and rounding need leaves a full mantissa. -/
theorem le_div_of_log2 (m n k : Nat) (hm : 0 < m) (hn : 0 < n)
    (h : n.log2 + 53 ≤ m.log2 + k) : wordsPerBinade ≤ m * 2 ^ k / n := by
  have hpow : wordsPerBinade = 2 ^ 52 := by decide
  rw [Nat.le_div_iff_mul_le hn, hpow]
  calc 2 ^ 52 * n ≤ 2 ^ 52 * 2 ^ (n.log2 + 1) := Nat.mul_le_mul_left _ Nat.lt_log2_self.le
    _ = 2 ^ (n.log2 + 53) := by rw [← Nat.pow_add]; congr 1; omega
    _ ≤ 2 ^ (m.log2 + k) := Nat.pow_le_pow_right (by decide) h
    _ = 2 ^ m.log2 * 2 ^ k := Nat.pow_add _ _ _
    _ ≤ m * 2 ^ k := Nat.mul_le_mul_right _ (Nat.log2_self_le hm.ne')

/-- How a quotient is prepared for rounding: the dividend is scaled until enough bits are left,
    or until it counts units. -/
theorem divCore_eq (m n : Nat) (e f : Int) (hm : 0 < m) (hn : 0 < n) :
    ∃ (k : Nat) (exponent : Int), exponent + k = e - f ∧
      divCore .binary64 m e n f = (m * 2 ^ k / n, exponent, accuracyOfFraction (m * 2 ^ k % n) n) ∧
      (52 ≤ (m * 2 ^ k / n).log2 ∨ exponent ≤ -1074) := by
  have htarget : Format.targetExponent .binary64 (totalExponent m e - totalExponent n f)
      = max ((m.log2 : Int) + e - n.log2 - f - 53) (-1074) := by
    change max (((m.log2 : Int) + 1 + e) - ((n.log2 : Int) + 1 + f) - 53) (-1074) = _
    omega
  generalize hexponent : min (e - f) (max ((m.log2 : Int) + e - n.log2 - f - 53) (-1074))
    = exponent
  refine ⟨(e - f - exponent).toNat, exponent, by omega, ?_, ?_⟩
  · unfold divCore
    rw [htarget, hexponent]
    simp only [Nat.shiftLeft_eq]
  · by_cases hlow : exponent ≤ -1074
    · exact Or.inr hlow
    -- Above the lowest binade the exponent has been chosen so that a full mantissa is left.
    · exact Or.inl (log2_of_full _ (le_div_of_log2 m n _ hm hn (by omega)))

/-- The quotient of two forms. The sign of the divisor moves to the dividend, since counts are
    divided by a positive one. -/
theorem roundsTo_div_units (u v : UnpackedFloat) (m n : Int) (hu : HasUnits u m)
    (hv : HasUnits v n) (hn : n ≠ 0) :
    RoundsTo (packed (.div .binary64 u v)) (m * unitsPerOne * n.sign) n.natAbs := by
  cases hv with
  | zero sign' => exact absurd rfl hn
  | finite sign' mantissa' shift' exponent' hpos' hexponent' hfits' hfull' =>
      have hdivisor : 0 < mantissa' * 2 ^ shift' := Nat.mul_pos hpos' (Nat.two_pow_pos shift')
      rw [natAbs_withSign]
      cases hu with
      | zero sign =>
          rw [Int.zero_mul, Int.zero_mul]
          change RoundsTo (packed (.zero (sign / sign'))) _ _
          rw [packed_zero, ← withSign_zero (isNegative (sign / sign'))]
          exact roundsTo_of_ratio _ 0 1 0 _ Nat.one_pos hdivisor (Nat.zero_mul _)
      | finite sign mantissa shift exponent hpos hexponent hfits hfull =>
          have hsign : (withSign (isNegative sign') (mantissa' * 2 ^ shift')).sign
              = withSign (isNegative sign') 1 := by
            cases sign'
            · exact (Int.sign_neg _).trans
                (congrArg Neg.neg (Int.sign_natCast_of_ne_zero hdivisor.ne'))
            · exact Int.sign_natCast_of_ne_zero hdivisor.ne'
          -- Signs divide as they multiply.
          have hquotient : isNegative (sign / sign') = isNegative (sign * sign') := by
            cases sign <;> cases sign' <;> rfl
          rcases divCore_eq mantissa mantissa' exponent exponent' hpos hpos'
            with ⟨k, e, hsum, hcore, hfine⟩
          have hround := packed_roundWithAccuracy (sign / sign') (mantissa * 2 ^ k) mantissa' e
            hpos' hfine
          rw [hsign, withSign_mul_natCast, withSign_mul, Nat.mul_one, ← hquotient]
          unfold UnpackedFloat.div
          simp only
          rw [hcore, hround]
          refine roundsTo_of_ratio _ _ _ _ _ (by positivity) hdivisor ?_
          -- Both sides count the same power of two, which is all that the scaling has changed.
          have hunits : k + (e + 1074).toNat + shift'
              = shift + 1074 + (-(e + 1074)).toNat := by omega
          generalize (e + 1074).toNat = a at hunits ⊢
          generalize (-(e + 1074)).toNat = b at hunits ⊢
          calc mantissa * 2 ^ k * 2 ^ a * (mantissa' * 2 ^ shift')
              = mantissa * mantissa' * 2 ^ (k + a + shift') := by
                rw [Nat.pow_add, Nat.pow_add]
                ring
            _ = mantissa * 2 ^ shift * unitsPerOne * (mantissa' * 2 ^ b) := by
                rw [hunits, Nat.pow_add, ← two_pow_mul_unitsPerOne]
                ring

/-- A quotient of finite doubles, the divisor not being zero. -/
theorem roundsTo_div (x y : Float) (hx : magnitudeWord x < infinityWord)
    (hy : magnitudeWord y < infinityWord) (hne : rank y ≠ 0) :
    RoundsTo (x / y) (rank x * unitsPerOne * (rank y).sign) (rank y).natAbs :=
  roundsTo_div_units _ _ _ _ (hasUnits_unpack x hx) (hasUnits_unpack y hy) hne

end Number

end PlanarMotion
