import PlanarMotion.Proofs.Number.Arithmetic

/-!
# The Order of Doubles

Doubles that are numbers compare as their places on the line, the infinite ones included, and
what is no number compares with nothing. So each comparison becomes one of integers. The core
library compares exponents before mantissas, which is right for forms that are in their binades.

What is left of the operations is said here as well: what they do with an infinite double, and
that they all give no number if they get none.

## Main definitions

* `IsNumber`: A double that is finite or infinite.
* `Placed`: An unpacked form and its place, which may be beyond all finite ones.

## Theorems

* `placed_unpack`, `unpack_of_not_isNumber`: What doubles unpack to.
* `lt_iff`, `le_iff`, `beq_iff`: Comparison of places.
* `isInf_iff`: The infinite doubles are those of the infinite word.
* `isNumber_of_strict`: An operation that gives a number has been given numbers.
* `finite_of_add`, `finite_of_sub`: A sum or difference that is finite is one of finite doubles.
* `rank_neg`, `rank_div_infinite`: Opposites, and quotients by an infinite double.
-/

namespace PlanarMotion

namespace Number

open Float.Model Float.Model.UnpackedFloat

/-- A double that is finite or infinite. -/
def IsNumber (x : Float) : Prop :=
  magnitudeWord x ≤ infinityWord

instance (x : Float) : Decidable (IsNumber x) :=
  inferInstanceAs (Decidable (magnitudeWord x ≤ infinityWord))

/-- An unpacked form and its place, which may be beyond all finite ones. -/
inductive Placed : UnpackedFloat → Int → Prop where
  /-- A finite form is where it counts. -/
  | finite (u : UnpackedFloat) (n : Int) (h : HasUnits u n)
      (hlt : n.natAbs < unitsOfWord infinityWord) : Placed u n
  /-- An infinite one is beyond. -/
  | infinity (sign : Sign) :
      Placed (.infinity sign) (withSign (isNegative sign) (unitsOfWord infinityWord))

theorem natAbs_rank (x : Float) : (rank x).natAbs = unitsOfWord (magnitudeWord x) :=
  natAbs_withSign _ _

/-- Zero is the origin. -/
theorem rank_zero : rank 0 = 0 := by
  decide +kernel

/-- The places of words are ordered as the words. -/
theorem natAbs_rank_le_iff (x : Float) (word : Nat) :
    (rank x).natAbs ≤ unitsOfWord word ↔ magnitudeWord x ≤ word := by
  rw [natAbs_rank]
  exact unitsOfWord_strictMono.le_iff_le

theorem natAbs_rank_lt_iff (x : Float) (word : Nat) :
    (rank x).natAbs < unitsOfWord word ↔ magnitudeWord x < word := by
  rw [natAbs_rank]
  exact unitsOfWord_strictMono.lt_iff_lt

theorem isNumber_zero : IsNumber 0 :=
  (natAbs_rank_le_iff 0 infinityWord).mp (by rw [rank_zero]; exact Nat.zero_le _)

/-- Rounding does not jump over a double. -/
theorem RoundsTo.natAbs_rank_le {x : Float} {num : Int} {den : Nat} (h : RoundsTo x num den)
    (hden : 0 < den) (y : Float) (hbound : num.natAbs ≤ (rank y).natAbs * den) :
    (rank x).natAbs ≤ (rank y).natAbs := by
  rw [natAbs_rank] at hbound
  rw [natAbs_rank y, natAbs_rank_le_iff]
  exact h.magnitudeWord_le hden _ hbound

/-- The words from the infinite one on have the exponent that is all ones. -/
theorem unpack_of_le (x : Float) (h : infinityWord ≤ magnitudeWord x) :
    x.toModel.unpack = if magnitudeWord x = infinityWord
      then .infinity (Sign.ofBitVec (@unpackSign .binary64 x.toBits.toBitVec))
      else .notANumber := by
  have htop := unpackExponent_eq_top x.toBits.toBitVec
  have hfraction := unpackMantissa_eq_zero x.toBits.toBitVec
  change _ ↔ infinityWord ≤ x.toBits.toNat % signWord at htop
  change _ ↔ x.toBits.toNat % wordsPerBinade = 0 at hfraction
  have hunpack : x.toModel.unpack = UnpackedFloat.unpack .binary64 x.toBits.toBitVec := rfl
  unfold magnitudeWord at h ⊢
  -- Of these words only the infinite one has no fraction.
  have hword : x.toBits.toNat % signWord = infinityWord
      ↔ @unpackMantissa .binary64 x.toBits.toBitVec = 0#52 := by
    rw [hfraction]
    unfold infinityWord signWord wordsPerBinade at *
    omega
  rw [hunpack, UnpackedFloat.unpack]
  simp only
  rw [if_pos (htop.mpr h)]
  exact if_congr hword.symm rfl rfl

theorem placed_unpack (x : Float) (h : IsNumber x) : Placed x.toModel.unpack (rank x) := by
  rcases Nat.lt_or_eq_of_le h with hlt | heq
  · exact .finite _ _ (hasUnits_unpack x hlt) ((natAbs_rank_lt_iff x _).mpr hlt)
  · rw [unpack_of_le x heq.ge, if_pos heq, rank, negative_eq, heq]
    exact .infinity _

theorem unpack_of_not_isNumber (x : Float) (h : ¬ IsNumber x) :
    x.toModel.unpack = .notANumber := by
  unfold IsNumber at h
  rw [unpack_of_le x (by omega), if_neg (by omega)]

/-- A full mantissa counts more than any mantissa of a lower binade. -/
theorem mul_two_pow_lt (m m' s s' : Nat) (hfits : m < 2 * wordsPerBinade)
    (hfull : wordsPerBinade ≤ m') (hlt : s < s') : m * 2 ^ s < m' * 2 ^ s' :=
  calc m * 2 ^ s < 2 * wordsPerBinade * 2 ^ s :=
        Nat.mul_lt_mul_of_pos_right hfits (Nat.two_pow_pos s)
    _ = wordsPerBinade * 2 ^ (s + 1) := by rw [Nat.pow_succ]; ring
    _ ≤ wordsPerBinade * 2 ^ s' := Nat.mul_le_mul_left _ (Nat.pow_le_pow_right (by decide) hlt)
    _ ≤ m' * 2 ^ s' := Nat.mul_le_mul_right _ hfull

/-- Forms in their binades may be compared by exponent first. -/
theorem compare_binades (m m' s s' : Nat) (hfits : m < 2 * wordsPerBinade)
    (hfull : wordsPerBinade ≤ m ∨ s = 0) (hfits' : m' < 2 * wordsPerBinade)
    (hfull' : wordsPerBinade ≤ m' ∨ s' = 0) :
    (compare ((s : Int) - 1074) (s' - 1074)).then (compare m m')
      = compare (m * 2 ^ s) (m' * 2 ^ s') := by
  rcases Nat.lt_trichotomy s s' with hlt | heq | hgt
  -- The higher binade is above the lowest one, so its mantissa is full.
  · have hbelow := mul_two_pow_lt m m' s s' hfits (hfull'.resolve_right (by omega)) hlt
    rw [Nat.compare_eq_lt.mpr hbelow, Int.compare_eq_lt.mpr (by omega)]
    rfl
  · -- In the same binade it is the mantissas that decide.
    have hpos := Nat.two_pow_pos s'
    rw [heq, Int.compare_eq_eq.mpr rfl]
    change compare m m' = _
    rcases Nat.lt_trichotomy m m' with hm | hm | hm
    · rw [Nat.compare_eq_lt.mpr hm, Nat.compare_eq_lt.mpr (Nat.mul_lt_mul_of_pos_right hm hpos)]
    · rw [Nat.compare_eq_eq.mpr hm, Nat.compare_eq_eq.mpr (congrArg (· * 2 ^ s') hm)]
    · rw [Nat.compare_eq_gt.mpr hm, Nat.compare_eq_gt.mpr (Nat.mul_lt_mul_of_pos_right hm hpos)]
  · have habove := mul_two_pow_lt m' m s' s hfits' (hfull.resolve_right (by omega)) hgt
    rw [Nat.compare_eq_gt.mpr habove, Int.compare_eq_gt.mpr (by omega)]
    rfl

theorem compare_natCast (m n : Nat) : compare (m : Int) n = compare m n := by
  rcases Nat.lt_trichotomy m n with hlt | heq | hgt
  · rw [Nat.compare_eq_lt.mpr hlt, Int.compare_eq_lt.mpr (by omega)]
  · rw [Nat.compare_eq_eq.mpr heq, Int.compare_eq_eq.mpr (by omega)]
  · rw [Nat.compare_eq_gt.mpr hgt, Int.compare_eq_gt.mpr (by omega)]

/-- Opposites compare the other way round. -/
theorem compare_neg_natCast (m n : Nat) : compare (-(m : Int)) (-n) = (compare m n).swap := by
  rcases Nat.lt_trichotomy m n with hlt | heq | hgt
  · rw [Nat.compare_eq_lt.mpr hlt, Int.compare_eq_gt.mpr (by omega)]
    rfl
  · rw [Nat.compare_eq_eq.mpr heq, Int.compare_eq_eq.mpr (by omega)]
    rfl
  · rw [Nat.compare_eq_gt.mpr hgt, Int.compare_eq_lt.mpr (by omega)]
    rfl

/-- Forms in their binades compare as what they count. -/
theorem compare_units (u v : UnpackedFloat) (m n : Int) (hu : HasUnits u m) (hv : HasUnits v n) :
    u.compare v = some (compare m n) := by
  -- Unless both signs agree, the sign alone decides.
  have hbelow : ∀ m n : Int, m < n → some Ordering.lt = some (compare m n) := fun m n h =>
    congrArg some (Int.compare_eq_lt.mpr h).symm
  have habove : ∀ m n : Int, n < m → some Ordering.gt = some (compare m n) := fun m n h =>
    congrArg some (Int.compare_eq_gt.mpr h).symm
  cases hu with
  | zero sign =>
      cases hv with
      | zero sign' => rfl
      | finite sign' mantissa' shift' exponent' hpos' hexponent' hfits' hfull' =>
          have hcount := Nat.mul_pos hpos' (Nat.two_pow_pos shift')
          cases sign'
          · exact habove _ _ (Int.neg_neg_of_pos (Int.natCast_pos.mpr hcount))
          · exact hbelow _ _ (Int.natCast_pos.mpr hcount)
  | finite sign mantissa shift exponent hpos hexponent hfits hfull =>
      have hcount := Nat.mul_pos hpos (Nat.two_pow_pos shift)
      cases hv with
      | zero sign' =>
          cases sign
          · exact hbelow _ _ (Int.neg_neg_of_pos (Int.natCast_pos.mpr hcount))
          · exact habove _ _ (Int.natCast_pos.mpr hcount)
      | finite sign' mantissa' shift' exponent' hpos' hexponent' hfits' hfull' =>
          have hcount' := Nat.mul_pos hpos' (Nat.two_pow_pos shift')
          -- Two of one sign compare by size, which the exponents tell first.
          have hbinades := compare_binades mantissa mantissa' shift shift' hfits hfull hfits' hfull'
          rw [← hexponent, ← hexponent'] at hbinades
          cases sign with
          | negative =>
              cases sign' with
              | negative =>
                  refine congrArg some ?_
                  rw [hbinades]
                  exact (compare_neg_natCast _ _).symm
              | positive =>
                  exact hbelow _ _ (Int.lt_trans (Int.neg_neg_of_pos (Int.natCast_pos.mpr hcount))
                    (Int.natCast_pos.mpr hcount'))
          | positive =>
              cases sign' with
              | negative =>
                  exact habove _ _ (Int.lt_trans (Int.neg_neg_of_pos (Int.natCast_pos.mpr hcount'))
                    (Int.natCast_pos.mpr hcount))
              | positive =>
                  refine congrArg some ?_
                  rw [hbinades]
                  exact (compare_natCast _ _).symm

/-- Forms compare as their places. -/
theorem compare_placed (u v : UnpackedFloat) (m n : Int) (hu : Placed u m) (hv : Placed v n) :
    u.compare v = some (compare m n) := by
  have hnegative : withSign (isNegative .negative) (unitsOfWord infinityWord)
      = -(unitsOfWord infinityWord : Int) := rfl
  have hpositive : withSign (isNegative .positive) (unitsOfWord infinityWord)
      = unitsOfWord infinityWord := rfl
  cases hu with
  | finite _ _ h hlt =>
      cases hv with
      | finite _ _ h' hlt' => exact compare_units _ _ _ _ h h'
      | infinity sign' =>
          cases sign' with
          | negative =>
              rw [hnegative, Int.compare_eq_gt.mpr (by omega)]
              cases h <;> rfl
          | positive =>
              rw [hpositive, Int.compare_eq_lt.mpr (by omega)]
              cases h <;> rfl
  | infinity sign =>
      cases hv with
      | finite _ _ h' hlt' =>
          cases sign with
          | negative =>
              rw [hnegative, Int.compare_eq_lt.mpr (by omega)]
              cases h' <;> rfl
          | positive =>
              rw [hpositive, Int.compare_eq_gt.mpr (by omega)]
              cases h' <;> rfl
      | infinity sign' =>
          -- The infinite places differ, since the infinite word is not the zero one.
          have hword : 0 < infinityWord := by decide
          have hpos : 0 < (unitsOfWord infinityWord : Int) :=
            Int.natCast_pos.mpr (Nat.zero_lt_of_lt (unitsOfWord_strictMono hword))
          cases sign with
          | negative =>
              cases sign' with
              | negative => rw [Int.compare_eq_eq.mpr rfl]; rfl
              | positive => rw [hnegative, hpositive, Int.compare_eq_lt.mpr (by omega)]; rfl
          | positive =>
              cases sign' with
              | negative => rw [hnegative, hpositive, Int.compare_eq_gt.mpr (by omega)]; rfl
              | positive => rw [Int.compare_eq_eq.mpr rfl]; rfl

/-- Doubles compare as their places, if they are numbers, and else not at all. -/
theorem compare_unpack (x y : Float) : x.toModel.unpack.compare y.toModel.unpack
    = if IsNumber x ∧ IsNumber y then some (compare (rank x) (rank y)) else none := by
  by_cases hx : IsNumber x
  · by_cases hy : IsNumber y
    · rw [if_pos ⟨hx, hy⟩]
      exact compare_placed _ _ _ _ (placed_unpack x hx) (placed_unpack y hy)
    · rw [if_neg (fun h => hy h.2), unpack_of_not_isNumber y hy]
      cases x.toModel.unpack <;> rfl
  · rw [if_neg (fun h => hx h.1), unpack_of_not_isNumber x hx]
    rfl

/-- One number is below another if its place is. -/
theorem lt_iff (x y : Float) :
    Float.lt x y = true ↔ IsNumber x ∧ IsNumber y ∧ rank x < rank y := by
  have hlt : Float.lt x y = UnpackedFloat.lt x.toModel.unpack y.toModel.unpack :=
    Bool.decide_eq_true
  rw [hlt, UnpackedFloat.lt, compare_unpack, ← and_assoc]
  split
  · rename_i hnumbers
    rw [beq_iff_eq, Option.some_inj, Int.compare_eq_lt, and_iff_right hnumbers]
  · rename_i hnone
    exact iff_of_false Bool.false_ne_true (fun h => hnone h.1)

/-- One number is at most another if its place is. -/
theorem le_iff (x y : Float) :
    Float.le x y = true ↔ IsNumber x ∧ IsNumber y ∧ rank x ≤ rank y := by
  have hle : Float.le x y = UnpackedFloat.le x.toModel.unpack y.toModel.unpack :=
    Bool.decide_eq_true
  rw [hle, UnpackedFloat.le, compare_unpack, ← and_assoc]
  split
  · rename_i hnumbers
    rw [Option.any_some, Int.isLE_compare, and_iff_right hnumbers]
  · rename_i hnone
    exact iff_of_false Bool.false_ne_true (fun h => hnone h.1)

/-- Numbers are equal if their places are, so both zeros are one. -/
theorem beq_iff (x y : Float) :
    Float.beq x y = true ↔ IsNumber x ∧ IsNumber y ∧ rank x = rank y := by
  have hbeq : Float.beq x y = UnpackedFloat.beq x.toModel.unpack y.toModel.unpack := rfl
  rw [hbeq, UnpackedFloat.beq, compare_unpack, ← and_assoc]
  split
  · rename_i hnumbers
    rw [beq_iff_eq, Option.some_inj, Int.compare_eq_eq, and_iff_right hnumbers]
  · rename_i hnone
    exact iff_of_false Bool.false_ne_true (fun h => hnone h.1)

/-- A double is infinite if its word is. -/
theorem isInf_iff (x : Float) : x.isInf = true ↔ magnitudeWord x = infinityWord := by
  have hinf : x.isInf = x.toModel.unpack.isInf := rfl
  rw [hinf]
  rcases Nat.lt_or_ge (magnitudeWord x) infinityWord with hlt | hge
  -- Below the infinite word the form is a zero or a finite one.
  · have hunits := hasUnits_unpack x hlt
    generalize x.toModel.unpack = u, rank x = n at hunits ⊢
    cases hunits <;> exact iff_of_false Bool.false_ne_true hlt.ne
  · rw [unpack_of_le x hge]
    split
    · rename_i heq
      exact iff_of_true rfl heq
    · rename_i hne
      exact iff_of_false Bool.false_ne_true hne

theorem not_isNumber_packed : ¬ IsNumber (packed .notANumber) := by
  unfold IsNumber
  decide +kernel

/-- An operation that gives no number when it gets none. -/
theorem isNumber_of_strict (op : UnpackedFloat → UnpackedFloat → UnpackedFloat)
    (hleft : ∀ v, op .notANumber v = .notANumber) (hright : ∀ u, op u .notANumber = .notANumber)
    (x y : Float) (h : IsNumber (packed (op x.toModel.unpack y.toModel.unpack))) :
    IsNumber x ∧ IsNumber y := by
  by_contra hnone
  rw [not_and_or] at hnone
  rcases hnone with hx | hy
  · rw [unpack_of_not_isNumber x hx, hleft] at h
    exact not_isNumber_packed h
  · rw [unpack_of_not_isNumber y hy, hright] at h
    exact not_isNumber_packed h

theorem isNumber_of_add (x y : Float) : IsNumber (x + y) → IsNumber x ∧ IsNumber y :=
  isNumber_of_strict (.add .binary64) (fun _ => rfl) (fun u => by cases u <;> rfl) x y

theorem isNumber_of_sub (x y : Float) : IsNumber (x - y) → IsNumber x ∧ IsNumber y :=
  isNumber_of_strict (.sub .binary64) (fun _ => rfl) (fun u => by cases u <;> rfl) x y

theorem isNumber_of_mul (x y : Float) : IsNumber (x * y) → IsNumber x ∧ IsNumber y :=
  isNumber_of_strict (.mul .binary64) (fun _ => rfl) (fun u => by cases u <;> rfl) x y

theorem isNumber_of_div (x y : Float) : IsNumber (x / y) → IsNumber x ∧ IsNumber y :=
  isNumber_of_strict (.div .binary64) (fun _ => rfl) (fun u => by cases u <;> rfl) x y

/-- An opposite is as large, on the other side. -/
theorem rank_neg (x : Float) (h : magnitudeWord x < infinityWord) : rank (-x) = -rank x := by
  have hopposite := roundsTo_packed _ _ (hasUnits_neg _ _ (hasUnits_unpack x h))
  -- The opposite is rounded as well, but from a place that is a word already.
  have hself := nearestWord_unitsOfWord (magnitudeWord x) 1 Nat.one_pos
  have hword := hopposite.magnitudeWord_eq
  rw [Int.natAbs_neg, natAbs_rank, ← Nat.mul_one (unitsOfWord _), hself, Nat.min_eq_right h.le]
    at hword
  rcases hopposite.rank_eq with ⟨negative, hsign, hrank⟩
  -- So its size is kept, and its sign is that of what was rounded.
  rw [hword, ← natAbs_rank, ← Int.natAbs_neg, hsign] at hrank
  exact hrank

theorem magnitudeWord_neg (x : Float) (h : magnitudeWord x < infinityWord) :
    magnitudeWord (-x) = magnitudeWord x := by
  refine unitsOfWord_strictMono.injective ?_
  rw [← natAbs_rank, ← natAbs_rank, rank_neg x h, Int.natAbs_neg]

theorem isNumber_of_neg (x : Float) (h : IsNumber (-x)) : IsNumber x := by
  by_contra hnone
  have hneg : -x = packed x.toModel.unpack.neg := rfl
  rw [hneg, unpack_of_not_isNumber x hnone] at h
  exact not_isNumber_packed h

/-- What is not finite does not pack to a finite double. -/
theorem infinityWord_le_packed (u : UnpackedFloat) (h : ¬ u.isFinite = true) :
    infinityWord ≤ magnitudeWord (packed u) := by
  cases u with
  | notANumber => exact Nat.le_of_not_le not_isNumber_packed
  | infinity sign =>
      rw [packed_infinity, magnitudeWord_floatOfWord _ _ (Nat.le_refl _)]
  | zero sign => exact absurd rfl h
  | finite sign mantissa exponent hpos => exact absurd rfl h

/-- A finite sum of forms has finite summands. -/
theorem isFinite_of_add (u v : UnpackedFloat)
    (h : (UnpackedFloat.add .binary64 u v).isFinite = true) :
    u.isFinite = true ∧ v.isFinite = true := by
  cases u with
  | notANumber => cases h
  | infinity sign =>
      cases v with
      | infinity sign' =>
          -- Two infinite forms add to an infinite one or, with different signs, to none.
          unfold UnpackedFloat.add at h
          simp only at h
          split at h <;> cases h
      | _ => cases h
  | zero sign =>
      cases v with
      | zero sign' => exact ⟨rfl, rfl⟩
      | finite sign' mantissa' exponent' hpos' => exact ⟨rfl, rfl⟩
      | _ => cases h
  | finite sign mantissa exponent hpos =>
      cases v with
      | zero sign' => exact ⟨rfl, rfl⟩
      | finite sign' mantissa' exponent' hpos' => exact ⟨rfl, rfl⟩
      | _ => cases h

/-- A finite sum has finite summands. -/
theorem finite_of_add (x y : Float) (h : magnitudeWord (x + y) < infinityWord) :
    magnitudeWord x < infinityWord ∧ magnitudeWord y < infinityWord := by
  rw [← isFinite_iff, ← isFinite_iff]
  refine isFinite_of_add x.toModel.unpack y.toModel.unpack ?_
  by_contra hinfinite
  exact Nat.not_le_of_lt h (infinityWord_le_packed _ hinfinite)

/-- A finite difference has finite operands, since it is a sum with the opposite. -/
theorem finite_of_sub (x y : Float) (h : magnitudeWord (x - y) < infinityWord) :
    magnitudeWord x < infinityWord ∧ magnitudeWord y < infinityWord := by
  have hdifference : x - y = packed (.sub .binary64 x.toModel.unpack y.toModel.unpack) := rfl
  have hneg : ∀ u : UnpackedFloat, u.neg.isFinite = u.isFinite := by
    intro u
    cases u <;> rfl
  rw [← isFinite_iff, ← isFinite_iff]
  change _ ∧ y.toModel.unpack.isFinite = true
  rw [← hneg y.toModel.unpack]
  refine isFinite_of_add x.toModel.unpack y.toModel.unpack.neg ?_
  by_contra hinfinite
  rw [hdifference, sub_eq_add] at h
  exact Nat.not_le_of_lt h (infinityWord_le_packed _ hinfinite)

/-- A finite double is nothing against an infinite one, and two infinite ones have no quotient. -/
theorem rank_div_infinite (x y : Float) (hy : magnitudeWord y = infinityWord)
    (h : IsNumber (x / y)) : rank (x / y) = 0 := by
  have hquotient : x / y = packed (.div .binary64 x.toModel.unpack y.toModel.unpack) := rfl
  have hzero : ∀ sign, rank (packed (.zero sign)) = 0 := by
    intro sign
    rw [packed_zero, rank_floatOfWord _ _ (Nat.zero_le _), show unitsOfWord 0 = 0 by decide,
      withSign_zero]
  rw [hquotient, unpack_of_le y hy.ge, if_pos hy] at h ⊢
  -- Only the form of the dividend matters now.
  generalize x.toModel.unpack = u at h ⊢
  cases u with
  | notANumber => exact absurd h not_isNumber_packed
  | infinity sign => exact absurd h not_isNumber_packed
  | zero sign => exact hzero _
  | finite sign mantissa exponent hpos => exact hzero _

end Number

end PlanarMotion
