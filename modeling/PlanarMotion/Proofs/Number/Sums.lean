import PlanarMotion.Proofs.Number.Order
import PlanarMotion.Proofs.Path.Sums

/-!
# Doubles Measure Lengths

Sums of doubles are rounded, and they may overflow. Neither spoils the running sums of lengths. A
sum of two doubles that are not negative is a number that is not less than either, since rounding
does not jump over a double, and if one of them is zero then it is the other. An infinite one makes
an infinite sum, of which the same can be said. So doubles are numbers that lengths can be measured
with, and infinite lengths are among these.

## Theorems

* `packed_add_of_infinite`, `rank_add_of_infinite`: Sums with an infinite double.
* `isNumber_add`, `rank_le_rank_add`, `rank_add_le_rank`: What a length adds.
* `measures_float`: Doubles measure lengths.
-/

namespace PlanarMotion

namespace Number

open Float.Model Float.Model.UnpackedFloat

/-- An infinite form that is not negative stays when another one is added that is not negative. -/
theorem packed_add_of_infinite (u v : UnpackedFloat) (m n : Int) (hu : Placed u m) (hv : Placed v n)
    (hm : 0 ≤ m) (hn : 0 ≤ n)
    (h : m = unitsOfWord infinityWord ∨ n = unitsOfWord infinityWord) :
    packed (.add .binary64 u v) = packed (.infinity .positive) := by
  -- An infinite form that counts as no less than zero is the positive one.
  have hpositive : ∀ sign, 0 ≤ withSign (isNegative sign) (unitsOfWord infinityWord) →
      sign = .positive := by
    intro sign hsign
    have hword : 0 < infinityWord := by decide
    have hpos := Nat.zero_lt_of_lt (unitsOfWord_strictMono hword)
    cases sign with
    | positive => rfl
    | negative =>
        have hneg : withSign (isNegative .negative) (unitsOfWord infinityWord)
            = -(unitsOfWord infinityWord : Int) := rfl
        omega
  -- Nothing is an infinite form less an infinite form, since neither is negative.
  cases hu with
  | infinity sign =>
      rw [hpositive sign hm]
      cases hv with
      | infinity sign' =>
          rw [hpositive sign' hn]
          rfl
      | finite _ _ hunits _ => cases hunits <;> rfl
  | finite _ _ hunits hlt =>
      cases hv with
      | infinity sign' =>
          rw [hpositive sign' hn]
          cases hunits <;> rfl
      -- One of the two is infinite, so they are not both finite.
      | finite _ _ _ hlt' => omega

section Lengths

variable (x y : Float) (hx : IsNumber x) (hy : IsNumber y) (hxpos : 0 ≤ rank x) (hypos : 0 ≤ rank y)

include hx hy hxpos hypos

/-- A sum with an infinite length is infinite. -/
theorem rank_add_of_infinite
    (h : magnitudeWord x = infinityWord ∨ magnitudeWord y = infinityWord) :
    IsNumber (x + y) ∧ rank (x + y) = unitsOfWord infinityWord := by
  have hsum : x + y = packed (.infinity .positive) := by
    refine packed_add_of_infinite _ _ _ _ (placed_unpack x hx) (placed_unpack y hy) hxpos hypos ?_
    -- A length of the last magnitude has the last rank, as it is not negative.
    have hwordx := natAbs_rank x
    have hwordy := natAbs_rank y
    rcases h with h | h
    · rw [h] at hwordx
      omega
    · rw [h] at hwordy
      omega
  rw [hsum, packed_infinity]
  refine ⟨?_, rank_floatOfWord _ _ (Nat.le_refl _)⟩
  unfold IsNumber
  rw [magnitudeWord_floatOfWord _ _ (Nat.le_refl _)]

/-- A sum of lengths is a number. -/
theorem isNumber_add : IsNumber (x + y) := by
  rcases Nat.lt_or_eq_of_le hx with hfx | hinfinite
  · rcases Nat.lt_or_eq_of_le hy with hfy | hinfinite
    -- Between finite lengths rounding may reach the infinite word, but not go beyond it.
    · unfold IsNumber
      rw [(roundsTo_add x y hfx hfy).magnitudeWord_eq]
      exact Nat.min_le_left _ _
    · exact (rank_add_of_infinite x y hx hy hxpos hypos (Or.inr hinfinite)).1
  · exact (rank_add_of_infinite x y hx hy hxpos hypos (Or.inl hinfinite)).1

/-- A sum of lengths is not less than the first one. -/
theorem rank_le_rank_add : rank x ≤ rank (x + y) := by
  have hlast := (natAbs_rank_le_iff x infinityWord).mpr hx
  rcases Nat.lt_or_eq_of_le hx with hfx | hinfinite
  · rcases Nat.lt_or_eq_of_le hy with hfy | hinfinite
    · -- The exact sum is not less, and rounding does not jump over the first one.
      have hround := roundsTo_add x y hfx hfy
      have hnonneg := hround.rank_nonneg Nat.one_pos (Int.add_nonneg hxpos hypos)
      have hword := hround.le_magnitudeWord Nat.one_pos (magnitudeWord x) hx
        (by rw [← natAbs_rank]; omega)
      have hunits := unitsOfWord_strictMono.monotone hword
      rw [← natAbs_rank, ← natAbs_rank] at hunits
      omega
    -- An infinite sum has the last rank, which is not below any other.
    · rw [(rank_add_of_infinite x y hx hy hxpos hypos (Or.inr hinfinite)).2]
      omega
  · rw [(rank_add_of_infinite x y hx hy hxpos hypos (Or.inl hinfinite)).2]
    omega

/-- A length of zero adds nothing. -/
theorem rank_add_le_rank (hzero : rank y = 0) : rank (x + y) ≤ rank x := by
  rcases Nat.lt_or_eq_of_le hx with hfx | hinfinite
  · -- The exact sum is the first one, and rounding does not jump over it.
    have hfy : magnitudeWord y < infinityWord :=
      (natAbs_rank_lt_iff y _).mp (by
        rw [hzero]
        exact Nat.zero_lt_of_lt ((natAbs_rank_lt_iff x _).mpr hfx))
    have hbound := (roundsTo_add x y hfx hfy).natAbs_rank_le Nat.one_pos x (by omega)
    omega
  -- The first length is infinite, and so is the sum: they have the same rank.
  · have hsum := (rank_add_of_infinite x y hx hy hxpos hypos (Or.inl hinfinite)).2
    have hunits := natAbs_rank x
    rw [hinfinite] at hunits
    omega

end Lengths

/-- A double that is not negative is a number that is not below the origin. -/
theorem zero_le_iff_rank (x : Float) : 0 ≤ x ↔ IsNumber x ∧ 0 ≤ rank x := by
  have hle := le_iff 0 x
  rw [rank_zero] at hle
  exact ⟨fun h => (hle.mp h).2, fun h => hle.mpr ⟨isNumber_zero, h⟩⟩

/-- Doubles measure lengths, the infinite ones as well. -/
theorem measures_float : Measures Float where
  -- An order that holds includes that both sides are numbers, so each law is that of the integers.
  zero_le := (le_iff 0 0).mpr ⟨isNumber_zero, isNumber_zero, Int.le_refl _⟩
  le_trans := by
    intro a b c hab hbc
    rcases (le_iff a b).mp hab with ⟨ha, -, hab⟩
    rcases (le_iff b c).mp hbc with ⟨-, hc, hbc⟩
    exact (le_iff a c).mpr ⟨ha, hc, Int.le_trans hab hbc⟩
  lt_of_le_of_lt := by
    intro a b c hab hbc
    rcases (le_iff a b).mp hab with ⟨ha, -, hab⟩
    rcases (lt_iff b c).mp hbc with ⟨-, hc, hbc⟩
    exact (lt_iff a c).mpr ⟨ha, hc, Int.lt_of_le_of_lt hab hbc⟩
  lt_of_lt_of_le := by
    intro a b c hab hbc
    rcases (lt_iff a b).mp hab with ⟨ha, -, hab⟩
    rcases (le_iff b c).mp hbc with ⟨-, hc, hbc⟩
    exact (lt_iff a c).mpr ⟨ha, hc, Int.lt_of_lt_of_le hab hbc⟩
  le_of_lt := by
    intro a b hab
    rcases (lt_iff a b).mp hab with ⟨ha, hb, hab⟩
    exact (le_iff a b).mpr ⟨ha, hb, Int.le_of_lt hab⟩
  not_le_of_lt := by
    intro a b hab hba
    rcases (lt_iff a b).mp hab with ⟨-, -, hab⟩
    rcases (le_iff b a).mp hba with ⟨-, -, hba⟩
    exact Int.not_le.mpr hab hba
  lt_or_le := by
    intro a b ha hb
    -- Numbers are comparable; what is not below zero is one.
    rcases (zero_le_iff_rank a).mp ha with ⟨ha, -⟩
    rcases (zero_le_iff_rank b).mp hb with ⟨hb, -⟩
    rcases Int.lt_or_le (rank a) (rank b) with hlt | hge
    · exact Or.inl ((lt_iff a b).mpr ⟨ha, hb, hlt⟩)
    · exact Or.inr ((le_iff b a).mpr ⟨hb, ha, hge⟩)
  beq_zero_of_pos := by
    intro a ha
    rcases (lt_iff 0 a).mp ha with ⟨-, -, hpos⟩
    refine Bool.eq_false_iff.mpr fun hzero => ?_
    rcases (beq_iff a 0).mp hzero with ⟨-, -, hzero⟩
    exact Int.ne_of_gt hpos hzero
  le_add := by
    intro a x ha hx
    -- The sum has to be a number again, which is where signs are needed.
    rcases (zero_le_iff_rank a).mp ha with ⟨hanumber, ha⟩
    rcases (zero_le_iff_rank x).mp hx with ⟨hxnumber, hx⟩
    exact (le_iff a (a + x)).mpr ⟨hanumber, isNumber_add a x hanumber hxnumber ha hx,
      rank_le_rank_add a x hanumber hxnumber ha hx⟩
  add_le := by
    intro a x ha hx hzero
    rcases (zero_le_iff_rank a).mp ha with ⟨hanumber, ha⟩
    rcases (zero_le_iff_rank x).mp hx with ⟨hxnumber, hx⟩
    rcases (le_iff x 0).mp hzero with ⟨-, -, hzero⟩
    rw [rank_zero] at hzero
    exact (le_iff (a + x) a).mpr ⟨isNumber_add a x hanumber hxnumber ha hx, hanumber,
      rank_add_le_rank a x hanumber hxnumber ha hx (Int.le_antisymm hzero hx)⟩

end Number

end PlanarMotion
