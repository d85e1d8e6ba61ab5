import PlanarMotion.Proofs.Checked.Basic
import PlanarMotion.Proofs.Number.Order

/-!
# Doubles Are Tame

Everything that `Tame` asks of numbers holds of doubles. All of it is about places on the line:
a double within a bound is one whose place is, if it has one, and a calm double is finite, if it
is a number. The operations are rounded once, and rounding does not jump over a double, so what
is exactly within a bound stays within it.

Overflow is the only fact that needs more. A sum of a finite double and a turn may be beyond the
last finite double, but a turn is less than half of the gap behind it, so rounding goes back.

The sine, the cosine, the arcsine and the direction of a point are not given by the core library
as definitions. They are a parameter here, and no more is used of them than what is documented:
the ranges of the two that give angles.

## Main definitions

* `Functions`: The functions of angles.
* `Functions.Documented`: The ranges of those that give angles.
* `Functions.scalars`: Doubles with these functions.
* `Functions.core`, `Functions.confined`: The functions of the core library, as they are and kept
  to their documented ranges.

## Theorems

* `calm_iff`, `within_iff`: What `Tame` speaks of, as places.
* `finite_of_near`: Near a finite double there is no infinite one.
* `calm_of_near`, `calm_of_part`, `calm_div`: Operations that do not overflow.
* `within_part`, `within_centered`: Operations that stay within one.
* `modulo_bounds`, `within_wrapAngle`, `calm_turned`: Remainders by a turn.
* `tame`: Doubles are tame.
-/

namespace PlanarMotion

namespace Double

open PlanarMotion.Number PlanarMotion.Scalar

section Bounds

theorem calm_iff (x : Float) : Calm x ↔ (IsNumber x → magnitudeWord x < infinityWord) := by
  have hinfinite : Scalar.isInfinite x = true ↔ magnitudeWord x = infinityWord := isInf_iff x
  rw [Calm, Bool.eq_false_iff, ne_eq, hinfinite]
  unfold IsNumber
  omega

/-- A double is within a bound if it is placed within it, or is no number. -/
theorem within_iff (bound x : Float) (hbound : magnitudeWord bound < infinityWord)
    (hpos : 0 ≤ rank bound) :
    Within bound x ↔ (IsNumber x → (rank x).natAbs ≤ (rank bound).natAbs) := by
  have hnumber : IsNumber bound := hbound.le
  have hopposite : IsNumber (-bound) := by
    unfold IsNumber
    rw [magnitudeWord_neg bound hbound]
    exact hnumber
  have hrank := rank_neg bound hbound
  have hupper : bound < x ↔ IsNumber bound ∧ IsNumber x ∧ rank bound < rank x := lt_iff bound x
  have hlower : x < -bound ↔ IsNumber x ∧ IsNumber (-bound) ∧ rank x < rank (-bound) :=
    lt_iff x (-bound)
  unfold Within
  rw [hupper, hlower, hrank]
  -- The two comparisons bound the place from above and from below.
  constructor
  · rintro ⟨hle, hge⟩ hx
    have hle' : ¬ rank bound < rank x := fun h => hle ⟨hnumber, hx, h⟩
    have hge' : ¬ rank x < -rank bound := fun h => hge ⟨hx, hopposite, h⟩
    omega
  · intro h
    constructor
    · rintro ⟨-, hx, hlt⟩
      have hx' := h hx
      omega
    · rintro ⟨hx, -, hlt⟩
      have hx' := h hx
      omega

theorem finite_of_le (x y : Float) (hy : magnitudeWord y < infinityWord)
    (h : (rank x).natAbs ≤ (rank y).natAbs) : magnitudeWord x < infinityWord := by
  rw [natAbs_rank y, natAbs_rank_le_iff] at h
  exact Nat.lt_of_le_of_lt h hy

/-- The places of the whole numbers that are used below. -/
theorem rank_whole : rank 1 = unitsPerOne ∧ rank two = (2 * unitsPerOne : Nat) ∧
    2 * unitsPerOne < unitsOfWord infinityWord := by
  decide +kernel

theorem natAbs_rank_one : (rank 1).natAbs = unitsPerOne := by
  rw [rank_whole.1, Int.natAbs_natCast]

theorem natAbs_rank_two : (rank two).natAbs = 2 * unitsPerOne := by
  rw [rank_whole.2.1, Int.natAbs_natCast]

theorem two_finite : magnitudeWord two < infinityWord := by
  rw [← natAbs_rank_lt_iff, natAbs_rank_two]
  exact rank_whole.2.2

theorem one_finite : magnitudeWord 1 < infinityWord := by
  refine finite_of_le 1 two two_finite ?_
  rw [natAbs_rank_one, natAbs_rank_two]
  exact Nat.le_mul_of_pos_left _ (by decide)

theorem finite_of_le_one (x : Float) (h : (rank x).natAbs ≤ unitsPerOne) :
    magnitudeWord x < infinityWord := by
  rw [← natAbs_rank_one] at h
  exact finite_of_le x 1 one_finite h

theorem within_one_iff (x : Float) :
    Within 1 x ↔ (IsNumber x → (rank x).natAbs ≤ unitsPerOne) := by
  have hiff := within_iff 1 x one_finite (by rw [rank_whole.1]; exact Int.natCast_nonneg _)
  rw [natAbs_rank_one] at hiff
  exact hiff

/-- A turn is so small that two of it do not reach from the last finite double to the next. -/
theorem turn_bounds : magnitudeWord turn < infinityWord ∧ 0 < rank turn ∧
    unitsOfWord (infinityWord - 1) + 2 * (rank turn).natAbs < unitsOfWord infinityWord ∧
    0 ≤ rank pi ∧ (rank pi).natAbs ≤ (rank turn).natAbs ∧
    0 ≤ rank quarterTurn ∧ (rank quarterTurn).natAbs ≤ (rank turn).natAbs := by
  decide +kernel

theorem turn_finite : magnitudeWord turn < infinityWord :=
  turn_bounds.1

theorem rank_turn_pos : 0 < rank turn :=
  turn_bounds.2.1

theorem within_turn_iff (x : Float) :
    Within turn x ↔ (IsNumber x → (rank x).natAbs ≤ (rank turn).natAbs) :=
  within_iff turn x turn_finite rank_turn_pos.le

theorem calm_of_within_turn (x : Float) (h : Within turn x) : Calm x := by
  rw [within_turn_iff] at h
  rw [calm_iff]
  exact fun hx => finite_of_le x turn turn_finite (h hx)

/-- Near a finite double there is no infinite one, if near means less than half of the gap. -/
theorem finite_of_near (x z : Float) (num : Int) (near : Nat)
    (hx : magnitudeWord x < infinityWord) (hround : RoundsTo z num 1)
    (hgap : unitsOfWord (infinityWord - 1) + 2 * near < unitsOfWord infinityWord)
    (hnear : num.natAbs ≤ (rank x).natAbs + near) : magnitudeWord z < infinityWord := by
  have hlast : (rank x).natAbs ≤ unitsOfWord (infinityWord - 1) :=
    (natAbs_rank_le_iff x _).mpr (by omega)
  have hnearest := dist_nearestWord_le num.natAbs 1 (infinityWord - 1) Nat.one_pos
  rw [hround.magnitudeWord_eq]
  by_contra hinfinite
  -- The infinite word would have to be as near as the last finite one.
  have hbeyond := unitsOfWord_strictMono.monotone
    (show infinityWord ≤ nearestWord num.natAbs 1 by omega)
  -- These counts are closed terms, which must not be evaluated from here on.
  generalize unitsOfWord (nearestWord num.natAbs 1) = rounded at hnearest hbeyond
  generalize unitsOfWord (infinityWord - 1) = last at hgap hlast hnearest
  generalize unitsOfWord infinityWord = beyond at hgap hbeyond
  unfold Nat.dist at hnearest
  omega

end Bounds

section Arithmetic

/-- What is rounded from no more than a calm number and a turn is calm. -/
theorem calm_of_near (x y z : Float) (num : Int) (hx : Calm x) (hy : Within turn y)
    (hnumbers : IsNumber z → IsNumber x ∧ IsNumber y)
    (hround : magnitudeWord x < infinityWord → magnitudeWord y < infinityWord → RoundsTo z num 1)
    (hnum : num.natAbs ≤ (rank x).natAbs + (rank y).natAbs) : Calm z := by
  rw [calm_iff]
  intro hz
  -- If the result is no number it is calm; else the operands are numbers, and finite.
  rcases hnumbers hz with ⟨hnx, hny⟩
  have hfx := (calm_iff x).mp hx hnx
  have hfy := (calm_iff y).mp (calm_of_within_turn y hy) hny
  have hsmall := (within_turn_iff y).mp hy hny
  exact finite_of_near x z num _ hfx (hround hfx hfy) turn_bounds.2.2.1
    (Nat.le_trans hnum (Nat.add_le_add_left hsmall _))

theorem calm_add (x y : Float) (hx : Calm x) (hy : Within turn y) : Calm (x + y) :=
  calm_of_near x y _ _ hx hy (isNumber_of_add x y) (roundsTo_add x y) (Int.natAbs_add_le _ _)

theorem calm_add_left (x y : Float) (hx : Calm x) (hy : Within turn y) : Calm (y + x) := by
  refine calm_of_near x y _ _ hx hy (fun h => (isNumber_of_add y x h).symm)
    (fun hfx hfy => roundsTo_add y x hfy hfx) ?_
  rw [Nat.add_comm]
  exact Int.natAbs_add_le _ _

theorem calm_sub (x y : Float) (hx : Calm x) (hy : Within turn y) : Calm (x - y) :=
  calm_of_near x y _ _ hx hy (isNumber_of_sub x y) (roundsTo_sub x y) (Int.natAbs_sub_le _ _)

/-- What is rounded from a part of a calm number is calm. -/
theorem calm_of_part (x q z : Float) (num : Int) (hx : Calm x) (hq : Within 1 q)
    (hnumbers : IsNumber z → IsNumber x ∧ IsNumber q)
    (hround : magnitudeWord x < infinityWord → magnitudeWord q < infinityWord →
      RoundsTo z num unitsPerOne)
    (hnum : num.natAbs = (rank x).natAbs * (rank q).natAbs) : Calm z := by
  rw [calm_iff]
  intro hz
  rcases hnumbers hz with ⟨hnx, hnq⟩
  have hfx := (calm_iff x).mp hx hnx
  have hsmall := (within_one_iff q).mp hq hnq
  refine finite_of_le z x hfx ?_
  refine (hround hfx (finite_of_le_one q hsmall)).natAbs_rank_le unitsPerOne_pos x ?_
  rw [hnum]
  exact Nat.mul_le_mul_left _ hsmall

theorem calm_mul (x q : Float) (hx : Calm x) (hq : Within 1 q) : Calm (x * q) :=
  calm_of_part x q _ _ hx hq (isNumber_of_mul x q) (roundsTo_mul x q) (Int.natAbs_mul _ _)

theorem calm_mul_left (x q : Float) (hx : Calm x) (hq : Within 1 q) : Calm (q * x) := by
  refine calm_of_part x q _ _ hx hq (fun h => (isNumber_of_mul q x h).symm)
    (fun hfx hfq => roundsTo_mul q x hfq hfx) ?_
  rw [Int.natAbs_mul, Nat.mul_comm]

/-- Dividing by one or more does not make a number larger. -/
theorem calm_div (x y : Float) (hx : Calm x) (hy : unitsPerOne ≤ (rank y).natAbs) :
    Calm (x / y) := by
  rw [calm_iff]
  intro hquotient
  rcases isNumber_of_div x y hquotient with ⟨hnx, hny⟩
  have hfx := (calm_iff x).mp hx hnx
  have hpos : 0 < (rank y).natAbs := Nat.lt_of_lt_of_le unitsPerOne_pos hy
  refine finite_of_le _ x hfx ?_
  -- By an infinite divisor the quotient is zero; a finite one is rounded.
  rcases Nat.lt_or_eq_of_le hny with hfinite | hinfinite
  · refine (roundsTo_div x y hfx hfinite (Int.natAbs_pos.mp hpos)).natAbs_rank_le hpos x ?_
    rw [Int.natAbs_mul, Int.natAbs_mul, Int.natAbs_natCast unitsPerOne,
      Int.natAbs_sign_of_ne_zero (Int.natAbs_pos.mp hpos), Nat.mul_one]
    exact Nat.mul_le_mul_left _ hy
  · rw [rank_div_infinite x y hinfinite hquotient]
    exact Nat.zero_le _

theorem calm_neg (x : Float) (hx : Calm x) : Calm (-x) := by
  rw [calm_iff] at hx ⊢
  intro hopposite
  have hfx := hx (isNumber_of_neg x hopposite)
  exact (magnitudeWord_neg x hfx).trans_lt hfx

end Arithmetic

section Parts

/-- Clamping to what starts at zero leaves a number between the ends, whatever was clamped. -/
theorem clamp_bounds (t high : Float) (hhigh : IsNumber high) :
    IsNumber (clamp t 0 high) ∧ 0 ≤ rank (clamp t 0 high) ∧
      rank (clamp t 0 high) ≤ max 0 (rank high) := by
  have hzero := rank_zero
  -- The upper end is applied first, and wins against what is no number.
  have hlesser : IsNumber (lesser high t) ∧ rank (lesser high t) ≤ rank high := by
    unfold lesser
    split
    · rename_i hlt
      rcases (lt_iff t high).mp hlt with ⟨ht, -, hrank⟩
      exact ⟨ht, hrank.le⟩
    · exact ⟨hhigh, Int.le_refl _⟩
  unfold clamp greater
  split
  · rename_i hlt
    rcases (lt_iff 0 (lesser high t)).mp hlt with ⟨-, -, hrank⟩
    exact ⟨hlesser.1, by omega, by omega⟩
  · exact ⟨isNumber_zero, by omega, by omega⟩

/-- What is clamped to the unit interval is within one. -/
theorem within_clamp (t : Float) : Within 1 (clamp t 0 1) := by
  rw [within_one_iff]
  intro _
  have hbounds := clamp_bounds t 1 one_finite.le
  have hone := rank_whole.1
  generalize rank (clamp t 0 1) = place at hbounds ⊢
  rw [hone] at hbounds
  omega

theorem beq_zero_iff (x : Float) : (x == 0) = true ↔ IsNumber x ∧ rank x = 0 := by
  have hiff := beq_iff x 0
  rw [rank_zero] at hiff
  exact hiff.trans (and_congr_right fun _ => and_iff_right isNumber_zero)

/-- A part of a length is within one of it, even if the length is infinite. -/
theorem within_part (t length : Float) (hne : (length == 0) = false) :
    Within 1 (clamp t 0 length / length) := by
  rw [within_one_iff]
  intro hquotient
  rcases isNumber_of_div _ _ hquotient with ⟨-, hlength⟩
  rcases clamp_bounds t length hlength with ⟨hnumber, hnonneg, hle⟩
  have hrank : rank length ≠ 0 := fun hzero =>
    absurd ((beq_zero_iff length).mpr ⟨hlength, hzero⟩) (Bool.eq_false_iff.mp hne)
  rcases Nat.lt_or_eq_of_le hlength with hfinite | hinfinite
  · have hpart : (rank (clamp t 0 length)).natAbs ≤ (rank length).natAbs := by omega
    have hround := roundsTo_div _ _ (finite_of_le _ length hfinite hpart) hfinite hrank
    have hbound := hround.natAbs_rank_le (Int.natAbs_pos.mpr hrank) 1
    rw [natAbs_rank_one, Int.natAbs_mul, Int.natAbs_mul, Int.natAbs_natCast unitsPerOne,
      Int.natAbs_sign_of_ne_zero hrank, Nat.mul_one, Nat.mul_comm] at hbound
    exact hbound (Nat.mul_le_mul_left _ hpart)
  -- The quotient by an infinite length is a number only if it is zero.
  · have hzero := rank_div_infinite _ _ hinfinite hquotient
    exact (congrArg Int.natAbs hzero).trans_le (Nat.zero_le _)

/-- How far a fraction is from the middle, doubled, is within one. -/
theorem within_centered (t : Float) (hlow : ¬ t ≤ 0) (hhigh : ¬ 1 ≤ t) :
    Within 1 (1 - two * t) := by
  rw [within_one_iff]
  intro hdifference
  rcases isNumber_of_sub _ _ hdifference with ⟨-, hproduct⟩
  rcases isNumber_of_mul _ _ hproduct with ⟨-, ht⟩
  -- The fraction has failed both comparisons and is a number, so it lies strictly between them.
  have hpos : 0 < rank t := by
    by_contra hle
    refine hlow ((le_iff t 0).mpr ⟨ht, isNumber_zero, ?_⟩)
    rw [rank_zero]
    omega
  have hlt : rank t < unitsPerOne := by
    by_contra hle
    refine hhigh ((le_iff 1 t).mpr ⟨one_finite.le, ht, ?_⟩)
    rw [rank_whole.1]
    omega
  have hround := roundsTo_mul two t two_finite (finite_of_le_one t (by omega))
  have hnonneg : 0 ≤ rank (two * t) := by
    refine hround.rank_nonneg unitsPerOne_pos (Int.mul_nonneg ?_ hpos.le)
    rw [rank_whole.2.1]
    exact Int.natCast_nonneg _
  have hle : (rank (two * t)).natAbs ≤ (rank two).natAbs := by
    refine hround.natAbs_rank_le unitsPerOne_pos two ?_
    rw [Int.natAbs_mul]
    exact Nat.mul_le_mul_left _ (by omega)
  have hsub := roundsTo_sub 1 (two * t) one_finite (finite_of_le _ two two_finite hle)
  have hbound := hsub.natAbs_rank_le Nat.one_pos 1
  rw [natAbs_rank_two] at hle
  rw [natAbs_rank_one, Nat.mul_one, rank_whole.1] at hbound
  -- What is between zero and two is at most one away from one.
  refine hbound ?_
  generalize rank (two * t) = place at hnonneg hle ⊢
  generalize unitsPerOne = one at hle ⊢
  omega

/-- A positive count is at least one, however large it is. -/
theorem rank_ofNat (n : Nat) (hn : 0 < n) : unitsPerOne ≤ (rank (Scalar.ofNat n)).natAbs := by
  have hword : magnitudeWord (Scalar.ofNat n)
      = min infinityWord (nearestWord (n * unitsPerOne) 1) :=
    (magnitudeWord_floatOfWord false _ (Nat.min_le_left _ _)).trans (wordOfRatio_eq n 1)
  have hone : unitsOfWord (magnitudeWord 1) = unitsPerOne := by
    rw [← natAbs_rank, natAbs_rank_one]
  rw [natAbs_rank, ← hone, hword]
  refine unitsOfWord_strictMono.monotone (Nat.le_min.mpr ⟨one_finite.le, ?_⟩)
  refine le_nearestWord _ _ _ Nat.one_pos ?_
  rw [hone, Nat.mul_one]
  exact Nat.le_mul_of_pos_left _ hn

end Parts

section Remainders

/-- What is not finite has no remainder. -/
theorem remainder_of_not_finite (x y : Float) (h : infinityWord ≤ magnitudeWord x) :
    remainder x y = nan := by
  have hmagnitude : (Binary64.ofFloat x).magnitude = .infinite
      ∨ (Binary64.ofFloat x).magnitude = .nan := by
    rw [ofFloat_eq, magnitudeOfWord, if_neg (Nat.not_lt.mpr h)]
    by_cases heq : magnitudeWord x = infinityWord
    · exact Or.inl (if_pos heq)
    · exact Or.inr (if_neg heq)
  unfold remainder
  simp only
  rcases hmagnitude with hinfinite | hnan
  · rw [hinfinite]
  · rw [hnan]

/-- A remainder is a count that is less than the divisor's. -/
theorem roundsTo_remainder (x y : Float) (hx : magnitudeWord x < infinityWord)
    (hy : magnitudeWord y < infinityWord) (hne : rank y ≠ 0) :
    ∃ count : Int, count.natAbs < (rank y).natAbs ∧ RoundsTo (remainder x y) count 1 := by
  have hpos : 0 < unitsOf y := by
    rw [unitsOf_of_finite y hy, ← natAbs_rank]
    exact Int.natAbs_pos.mpr hne
  refine ⟨withSign (Binary64.ofFloat x).negative (unitsOf x % unitsOf y), ?_, ?_⟩
  · rw [natAbs_withSign, natAbs_rank, ← unitsOf_of_finite y hy]
    exact Nat.mod_lt _ hpos
  · unfold remainder
    simp only
    rw [magnitude_of_finite x hx, magnitude_of_finite y hy]
    simp only
    rw [if_neg hpos.ne', floatOfRatio, wordOfRatio_eq]
    -- The remainder is a count of units already, so this rounding changes nothing but the form.
    exact roundsTo_of_ratio _ _ _ _ 1 unitsPerOne_pos Nat.one_pos (Nat.mul_one _)

theorem not_isNumber_nan : ¬ IsNumber nan := by
  decide +kernel

/-- By a positive divisor, a remainder that is negative is moved up by it. -/
theorem modulo_eq (x y : Float) (hy : 0 ≤ rank y) : modulo x y =
    if remainder x y == zero then zero
    else if remainder x y < zero then remainder x y + y else remainder x y := by
  have hzero : rank zero = 0 := rank_zero
  have hpositive : ¬ y < zero := by
    intro hlt
    have hrank := ((lt_iff y zero).mp hlt).2.2
    omega
  unfold modulo
  simp only [hpositive, if_false]
  by_cases hlt : remainder x y < zero
  · simp only [hlt, if_true, eq_iff_iff, iff_true, if_false]
  · simp only [hlt, if_true, if_false]

/-- The remainder by a positive number is between zero and that number. -/
theorem modulo_bounds (x y : Float) (hy : magnitudeWord y < infinityWord) (hpos : 0 < rank y)
    (h : IsNumber (modulo x y)) :
    magnitudeWord x < infinityWord ∧ 0 ≤ rank (modulo x y) ∧ rank (modulo x y) ≤ rank y := by
  have hzero : rank zero = 0 := rank_zero
  have hx : magnitudeWord x < infinityWord := by
    by_contra hinfinite
    -- There is no remainder, so there is no number.
    have hremainder := remainder_of_not_finite x y (Nat.not_lt.mp hinfinite)
    rw [modulo_eq x y hpos.le, hremainder] at h
    have hbeq : ¬ (nan == zero) = true :=
      fun hbeq => not_isNumber_nan ((beq_iff nan zero).mp hbeq).1
    have hlt : ¬ nan < zero := fun hlt => not_isNumber_nan ((lt_iff nan zero).mp hlt).1
    rw [if_neg hbeq, if_neg hlt] at h
    exact not_isNumber_nan h
  refine ⟨hx, ?_⟩
  rcases roundsTo_remainder x y hx hy hpos.ne' with ⟨count, hcount, hround⟩
  have hle := hround.natAbs_rank_le Nat.one_pos y (by omega)
  have hfinite := finite_of_le _ y hy hle
  rw [modulo_eq x y hpos.le]
  generalize remainder x y = r at hle hfinite ⊢
  by_cases hbeq : (r == zero) = true
  · rw [if_pos hbeq, hzero]
    omega
  · rw [if_neg hbeq]
    by_cases hlt : r < zero
    · -- What is below zero is moved up by the divisor.
      have hrank := ((lt_iff r zero).mp hlt).2.2
      rw [hzero] at hrank
      rw [if_pos hlt]
      have hsum := roundsTo_add r y hfinite hy
      have hbound := hsum.natAbs_rank_le Nat.one_pos y (by omega)
      have hnonneg := hsum.rank_nonneg Nat.one_pos (by omega)
      generalize rank (r + y) = place at hbound hnonneg ⊢
      omega
    · have hrank : 0 ≤ rank r := by
        by_contra hnegative
        exact hlt ((lt_iff r zero).mpr ⟨hfinite.le, isNumber_zero, by rw [hzero]; omega⟩)
      rw [if_neg hlt]
      omega

/-- What wrapping leaves is within a turn. -/
theorem within_wrapAngle (x : Float) : Within turn (wrapAngle x) := by
  -- A remainder by a turn is within it, and is so if a turn is taken off.
  have hwrapped : ∀ w : Int, 0 ≤ w → w ≤ rank turn → w.natAbs ≤ (rank turn).natAbs ∧
      (w - rank turn).natAbs ≤ (rank turn).natAbs * 1 := by
    generalize rank turn = n
    intro w hnonneg hle
    omega
  rw [within_turn_iff]
  intro h
  unfold wrapAngle at h ⊢
  simp only at h ⊢
  by_cases hbeyond : pi < Scalar.modulo x turn
  · rw [if_pos hbeyond] at h ⊢
    have hnumber := (isNumber_of_sub _ _ h).1
    rcases modulo_bounds x turn turn_finite rank_turn_pos hnumber with ⟨-, hnonneg, hle⟩
    rcases hwrapped _ hnonneg hle with ⟨hsmall, hmoved⟩
    have hround := roundsTo_sub _ turn (finite_of_le _ turn turn_finite hsmall) turn_finite
    exact hround.natAbs_rank_le Nat.one_pos turn hmoved
  · rw [if_neg hbeyond] at h ⊢
    rcases modulo_bounds x turn turn_finite rank_turn_pos h with ⟨-, hnonneg, hle⟩
    exact (hwrapped _ hnonneg hle).1

/-- An angle that can be wrapped is finite. -/
theorem finite_of_wrapAngle (x : Float) (h : IsNumber (wrapAngle x)) :
    magnitudeWord x < infinityWord := by
  have hnumber : IsNumber (modulo x turn) := by
    unfold wrapAngle at h
    simp only at h
    by_cases hbeyond : pi < Scalar.modulo x turn
    · rw [if_pos hbeyond] at h
      exact (isNumber_of_sub _ _ h).1
    · rw [if_neg hbeyond] at h
      exact h
  exact (modulo_bounds x turn turn_finite rank_turn_pos hnumber).1

/-- An infinite angle has no way around from it. -/
theorem calm_turned (angle base target : Float) (hangle : ¬ Calm angle) :
    Calm (angle + wrapAngle (target - (base + angle))) := by
  rw [calm_iff] at hangle ⊢
  intro hsum
  -- A number here would make all that it comes from finite, the angle too.
  have hdifference := finite_of_wrapAngle _ (isNumber_of_add _ _ hsum).2
  have hbase := (finite_of_sub _ _ hdifference).2
  exact absurd (fun _ => (finite_of_add _ _ hbase).2) hangle

end Remainders

section Parameters

/-- The functions of angles. -/
structure Functions where
  /-- The sine. -/
  sin : Float → Float
  /-- The cosine. -/
  cos : Float → Float
  /-- The arcsine. -/
  asin : Float → Float
  /-- The direction of a point, from its ordinate and its abscissa. -/
  atan2 : Float → Float → Float

/-- What is documented of the functions that give angles. -/
structure Functions.Documented (f : Functions) : Prop where
  /-- The arcsine of a sine is at most a quarter of a turn to either side. -/
  asin : ∀ x : Float, Within 1 x → Within quarterTurn (f.asin x)
  /-- A direction is at most half a turn to either side. -/
  atan2 : ∀ y x : Float, Within pi (f.atan2 y x)

/-- Doubles with given functions of angles. -/
@[reducible]
def Functions.scalars (f : Functions) : Scalar Float :=
  { instScalarFloat with sin := f.sin, cos := f.cos, asin := f.asin, atan2 := f.atan2 }

instance (bound x : Float) : Decidable (Within bound x) :=
  inferInstanceAs (Decidable (¬ bound < x ∧ ¬ x < -bound))

/-- The functions of the core library. -/
def Functions.core : Functions :=
  ⟨Float.sin, Float.cos, Float.asin, Float.atan2⟩

/-- With the functions of the core library, doubles are what programs run over. -/
theorem Functions.scalars_core : Functions.core.scalars = instScalarFloat :=
  rfl

/-- A double, unless it is beyond a bound. -/
def confine (bound x : Float) : Float :=
  if Within bound x then x else nan

/-- The functions of the core library, kept to their documented ranges: nothing is known of
    them, so what would be beyond is left out. -/
def Functions.confined : Functions where
  sin := Float.sin
  cos := Float.cos
  asin := fun x => confine quarterTurn (Float.asin x)
  atan2 := fun y x => confine pi (Float.atan2 y x)

/-- What is confined is within its bound, since what is no number is beyond none. -/
theorem within_confine (bound x : Float) : Within bound (confine bound x) := by
  have hnone : Within bound nan :=
    ⟨fun hlt => not_isNumber_nan ((lt_iff bound nan).mp hlt).2.1,
      fun hlt => not_isNumber_nan ((lt_iff nan (-bound)).mp hlt).1⟩
  unfold confine
  split
  · assumption
  · exact hnone

/-- The confined functions keep to what is documented. -/
theorem Functions.documented_confined : Functions.confined.Documented := by
  refine ⟨?_, ?_⟩
  · intro x _
    unfold Functions.confined
    simp only [within_confine]
  · intro y x
    unfold Functions.confined
    simp only [within_confine]

/-- What is within a part of a turn is within a turn. -/
theorem within_of_part (part x : Float) (hpos : 0 ≤ rank part)
    (hpart : (rank part).natAbs ≤ (rank turn).natAbs) (h : Within part x) : Within turn x := by
  rw [within_iff part x (finite_of_le part turn turn_finite hpart) hpos] at h
  rw [within_turn_iff]
  exact fun hx => Nat.le_trans (h hx) hpart

theorem within_quarterTurn :
    Within turn (quarterTurn : Float) ∧ Within turn (-quarterTurn : Float) := by
  rcases turn_bounds with ⟨-, -, -, -, -, -, hquarter⟩
  rw [within_turn_iff, within_turn_iff,
    rank_neg quarterTurn (finite_of_le _ turn turn_finite hquarter), Int.natAbs_neg]
  exact ⟨fun _ => hquarter, fun _ => hquarter⟩

/-- Doubles are tame, whatever their functions of angles are within what is documented. -/
theorem tame (f : Functions) (hf : f.Documented) : @Tame Float f.scalars := by
  let _ := f.scalars
  rcases turn_bounds with ⟨-, -, -, hpi, hpiTurn, hquarter, hquarterTurn⟩
  -- A divisor is allowed if it is away from the origin.
  have hne : ∀ x : Float, rank x ≠ 0 → (x == 0) = false := fun x hx =>
    Bool.eq_false_iff.mpr fun hzero => hx ((beq_zero_iff x).mp hzero).2
  have hcount : ∀ n, 0 < n → rank (Scalar.ofNat n) ≠ 0 := fun n hn =>
    Int.natAbs_pos.mp (Nat.lt_of_lt_of_le unitsPerOne_pos (rank_ofNat n hn))
  exact {
    zero_beq := (beq_zero_iff 0).mpr ⟨isNumber_zero, rank_zero⟩
    ofNat_beq := fun n hn => hne _ (hcount n hn)
    turn_beq := hne _ rank_turn_pos.ne'
    beq_of_not_le := by
      intro x hx
      refine Bool.eq_false_iff.mpr fun hzero => ?_
      rcases (beq_zero_iff x).mp hzero with ⟨hnumber, hrank⟩
      exact hx ((le_iff x 0).mpr ⟨hnumber, isNumber_zero, (hrank.trans rank_zero.symm).le⟩)
    within_clamp := within_clamp
    within_centered := within_centered
    within_part := within_part
    within_atan2 := fun y x => within_of_part _ _ hpi hpiTurn (hf.atan2 y x)
    within_wrapAngle := within_wrapAngle
    within_quarterTurn := within_quarterTurn.1
    within_neg_quarterTurn := within_quarterTurn.2
    calm_of_within := calm_of_within_turn
    calm_add := calm_add
    calm_add_left := calm_add_left
    calm_sub := calm_sub
    calm_mul := calm_mul
    calm_mul_left := calm_mul_left
    calm_neg := calm_neg
    calm_minimalSweep := calm_div 1 _ ((calm_iff 1).mpr fun _ => one_finite)
      (rank_ofNat 100 (by decide))
    calm_arcsine := by
      intro x hx
      have hangle := within_of_part _ _ hquarter hquarterTurn (hf.asin x hx)
      exact calm_div _ _ (calm_of_within_turn _ hangle) (rank_ofNat 3 (by decide))
    calm_turned := fun angle base target hangle _ => calm_turned angle base target hangle }

end Parameters

end Double

end PlanarMotion
