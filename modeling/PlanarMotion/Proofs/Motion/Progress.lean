import PlanarMotion.Easing
import PlanarMotion.Proofs.Plane.Reals
import Mathlib

/-!
# Progress

Over the real numbers every easing is what its name says: progress starts at zero, ends at one,
does not jump, and has the reported slope while it lasts.

Four of the five curves are differentiated by rule. The inverse of the cubic step is not: that it
is the inverse follows from the formula for the sine of a triple angle, and its slope then from
the slope of the step. Its exceptions for both ends are none over the real numbers, since the
arcsine is constant beyond them.

## Theorems

* `CubicStep.inverse_eq`, `CubicStep.rise_inverse`: The inverse of the cubic step.
* `Easing.curve_zero`, `Easing.curve_one`, `Easing.continuous_progress`: Progress does not jump.
* `Easing.hasDerivAt_curve`, `Easing.hasDerivAt_progress`: Progress has the reported slope.
-/

namespace PlanarMotion

open Scalar Filter Topology

namespace CubicStep

theorem rise_eq (t : ℝ) : rise t = t * t * (3 - 2 * t) := by
  have htwo : ((2 : ℕ) : ℝ) = 2 := Nat.cast_ofNat
  have hthree : ((3 : ℕ) : ℝ) = 3 := Nat.cast_ofNat
  rw [← htwo, ← hthree]
  rfl

theorem riseSlope_eq (t : ℝ) : riseSlope t = 6 * t * (1 - t) := by
  have hsix : ((6 : ℕ) : ℝ) = 6 := Nat.cast_ofNat
  rw [← hsix]
  rfl

/-- The closed form of the inverse holds everywhere. -/
theorem inverse_eq (t : ℝ) : inverse t = 1 / 2 - Real.sin (Real.arcsin (1 - 2 * t) / 3) := by
  have hpi : Real.pi / 2 / 3 = Real.pi / 6 := by ring
  unfold inverse
  by_cases hzero : t ≤ 0
  · -- Beyond its ends the arcsine is a quarter turn, a third of which has the sine one half.
    rw [if_pos hzero, Real.arcsin_of_one_le (by linarith), hpi, Real.sin_pi_div_six, sub_self]
  rw [if_neg hzero]
  by_cases hone : 1 ≤ t
  · rw [if_pos hone, Real.arcsin_of_le_neg_one (by linarith), neg_div, Real.sin_neg, hpi,
      Real.sin_pi_div_six]
    norm_num
  · have htwo : ((2 : ℕ) : ℝ) = 2 := Nat.cast_ofNat
    have hthree : ((3 : ℕ) : ℝ) = 3 := Nat.cast_ofNat
    rw [if_neg hone, ← htwo, ← hthree]
    rfl

/-- The inverse stays in the unit interval. -/
theorem inverse_mem (t : ℝ) : 0 ≤ inverse t ∧ inverse t ≤ 1 := by
  have hpi := Real.pi_pos
  have hlow := Real.neg_pi_div_two_le_arcsin (1 - 2 * t)
  have hhigh := Real.arcsin_le_pi_div_two (1 - 2 * t)
  -- A third of the arcsine is at most a twelfth of a turn, whose sine is one half.
  have hsin : Real.sin (Real.arcsin (1 - 2 * t) / 3) ≤ Real.sin (Real.pi / 6) :=
    Real.sin_le_sin_of_le_of_le_pi_div_two (by linarith) (by linarith) (by linarith)
  have hneg : Real.sin (-(Real.pi / 6)) ≤ Real.sin (Real.arcsin (1 - 2 * t) / 3) :=
    Real.sin_le_sin_of_le_of_le_pi_div_two (by linarith) (by linarith) (by linarith)
  rw [Real.sin_pi_div_six] at hsin
  rw [Real.sin_neg, Real.sin_pi_div_six] at hneg
  rw [inverse_eq]
  constructor
  · linarith
  · linarith

/-- The inverse is one: the step is a sine of a triple angle. -/
theorem rise_inverse (t : ℝ) (hlow : 0 ≤ t) (hhigh : t ≤ 1) : rise (inverse t) = t := by
  -- With the sine of a third for unknown, the sine of a triple angle is the cubic.
  have htriple := Real.sin_three_mul (Real.arcsin (1 - 2 * t) / 3)
  rw [mul_div_cancel₀ _ three_ne_zero, Real.sin_arcsin (by linarith) (by linarith)] at htriple
  rw [inverse_eq, rise_eq]
  linear_combination htriple / 2

/-- Between the ends the step is nowhere level. -/
theorem riseSlope_inverse_pos (t : ℝ) (hlow : 0 < t) (hhigh : t < 1) :
    0 < riseSlope (inverse t) := by
  have hrise := rise_inverse t hlow.le hhigh.le
  rcases inverse_mem t with ⟨hnonneg, hle⟩
  rw [rise_eq] at hrise
  -- At the ends of the unit interval the step would be at an end as well.
  have hpos : 0 < inverse t := by
    refine lt_of_le_of_ne hnonneg fun hzero => ?_
    rw [← hzero] at hrise
    linarith
  have hlt : inverse t < 1 := by
    refine lt_of_le_of_ne hle fun hone => ?_
    rw [hone] at hrise
    linarith
  rw [riseSlope_eq]
  exact mul_pos (mul_pos (by norm_num) hpos) (by linarith)

theorem continuous_inverse : Continuous (inverse : ℝ → ℝ) := by
  rw [funext inverse_eq]
  fun_prop

/-- The step has the slope that is reported. -/
theorem hasDerivAt_rise (t : ℝ) : HasDerivAt rise (riseSlope t) t := by
  have hid := hasDerivAt_id t
  have hderiv := (hid.mul hid).mul ((hid.const_mul 2).const_sub 3)
  rw [funext rise_eq, riseSlope_eq]
  refine hderiv.congr_deriv ?_
  simp only [id, Pi.mul_apply]
  ring

/-- The slope of the inverse is the inverse of the slope. -/
theorem hasDerivAt_inverse (t : ℝ) (hlow : 0 < t) (hhigh : t < 1) :
    HasDerivAt inverse (inverseSlope t) t := by
  have hpos := riseSlope_inverse_pos t hlow hhigh
  -- Near the time the step undoes the inverse, which is what the inverse rule asks for.
  have hback : ∀ᶠ s in 𝓝 t, rise (inverse s) = s := by
    filter_upwards [Ioo_mem_nhds hlow hhigh] with s hs
    exact rise_inverse s hs.1.le hs.2.le
  have hslope : inverseSlope t = (riseSlope (inverse t))⁻¹ := by
    unfold inverseSlope
    simp only [if_neg (not_le.mpr hpos)]
    exact one_div _
  rw [hslope]
  exact (hasDerivAt_rise (inverse t)).of_local_left_inverse continuous_inverse.continuousAt hpos.ne'
    hback

end CubicStep

namespace Easing

theorem quarterAngle_eq (t : ℝ) : quarterAngle t = t * (Real.pi / 2) := by
  rw [quarterAngle, quarterTurn_eq]

/-- All curves start at zero. -/
theorem curve_zero (e : Easing) : e.curve (0 : ℝ) = 0 := by
  cases e with
  | uniform => rfl
  | sine =>
      have hsin : Real.sin (quarterAngle (0 : ℝ)) = 0 := by simp [quarterAngle_eq]
      exact hsin
  | cosine =>
      have hcos : 1 - Real.cos (quarterAngle (0 : ℝ)) = 0 := by simp [quarterAngle_eq]
      exact hcos
  | smoothStep =>
      rw [curve, CubicStep.rise_eq]
      norm_num
  | inverseSmoothStep => exact if_pos (le_refl _)

/-- All curves end at one. -/
theorem curve_one (e : Easing) : e.curve (1 : ℝ) = 1 := by
  cases e with
  | uniform => rfl
  | sine =>
      have hsin : Real.sin (quarterAngle (1 : ℝ)) = 1 := by simp [quarterAngle_eq]
      exact hsin
  | cosine =>
      have hcos : 1 - Real.cos (quarterAngle (1 : ℝ)) = 1 := by simp [quarterAngle_eq]
      exact hcos
  | smoothStep =>
      rw [curve, CubicStep.rise_eq]
      norm_num
  | inverseSmoothStep =>
      exact (if_neg (not_le.mpr zero_lt_one)).trans (if_pos (le_refl _))

theorem hasDerivAt_quarterAngle (t : ℝ) : HasDerivAt quarterAngle (quarterTurn : ℝ) t := by
  rw [funext quarterAngle_eq, quarterTurn_eq]
  simpa using (hasDerivAt_id t).mul_const (Real.pi / 2)

/-- Each curve has the reported slope within the unit interval. -/
theorem hasDerivAt_curve (e : Easing) (t : ℝ) (hlow : 0 < t) (hhigh : t < 1) :
    HasDerivAt e.curve (e.curveSlope t) t := by
  have hangle := hasDerivAt_quarterAngle t
  cases e with
  | uniform => exact hasDerivAt_id t
  | sine => exact hangle.sin.congr_deriv (mul_comm _ _)
  | cosine =>
      refine (hangle.cos.const_sub 1).congr_deriv ?_
      rw [neg_mul, neg_neg, mul_comm]
      rfl
  | smoothStep => exact CubicStep.hasDerivAt_rise t
  | inverseSmoothStep => exact CubicStep.hasDerivAt_inverse t hlow hhigh

/-- No curve jumps. -/
theorem continuous_curve (e : Easing) : Continuous (e.curve : ℝ → ℝ) := by
  have hangle : Continuous (quarterAngle : ℝ → ℝ) := by
    rw [funext quarterAngle_eq]
    fun_prop
  cases e with
  | uniform => exact continuous_id
  | sine => exact Real.continuous_sin.comp hangle
  | cosine => exact continuous_const.sub (Real.continuous_cos.comp hangle)
  | smoothStep =>
      exact continuous_iff_continuousAt.mpr fun t => (CubicStep.hasDerivAt_rise t).continuousAt
  | inverseSmoothStep => exact CubicStep.continuous_inverse

theorem progress_of_le_zero (e : Easing) (t : ℝ) (h : t ≤ 0) : e.progress t = 0 := by
  rw [progress, clamp_of_le t 0 1 h, curve_zero]

theorem progress_of_one_le (e : Easing) (t : ℝ) (h : 1 ≤ t) : e.progress t = 1 := by
  rw [progress, clamp_of_ge t 0 1 zero_le_one h, curve_one]

theorem continuous_progress (e : Easing) : Continuous (e.progress : ℝ → ℝ) :=
  e.continuous_curve.comp (continuous_clamp 0 1)

/-- Progress has the reported slope while it lasts. -/
theorem hasDerivAt_progress (e : Easing) (t : ℝ) (hlow : 0 < t) (hhigh : t < 1) :
    HasDerivAt e.progress (e.slope t) t := by
  -- Near a time in the open interval nothing is clamped.
  have hsame : e.progress =ᶠ[𝓝 t] e.curve := by
    filter_upwards [Ioo_mem_nhds hlow hhigh] with s hs
    rw [progress, clamp_of_mem s 0 1 hs.1.le hs.2.le]
  rw [slope, clamp_of_mem t 0 1 hlow.le hhigh.le]
  exact (e.hasDerivAt_curve t hlow hhigh).congr_of_eventuallyEq hsame

end Easing

end PlanarMotion
