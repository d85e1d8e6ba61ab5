import PlanarMotion.Proofs.Motion.Velocity

/-!
# Motion Never Runs Backwards

Over the real numbers every easing goes from zero to one without going back. This need not be
shown curve by curve: the reported slopes are not negative, they are the derivatives between the
ends of the unit interval, and nothing jumps there. That the step and its inverse undo each other
is the same argument. The step rises strictly, so it takes no value twice, and one of the two
equations gives the other.

One curve is vertical at both ends. What it reports there is no number but a mark for an infinite
slope, for which over the real numbers some positive number stands. It is said where the mark is
reported, and that no slope is negative, there or elsewhere; the same is said of speeds. Of the
number nothing but its sign is known, so this is how slopes are with any mark that is positive.

A phase covers its path as its easing says. If it does not take a negative time, then a later time
is a later fraction of it, and since no path that is built has a negative length, the distance
that is covered grows as well.

## Main definitions

* `Easing.VerticalAt`: Where the mark for an infinite slope is reported.
* `Easing.GoesForward`: An easing that goes from zero to one and never back.
* `Leg.distance`: How far a leg has come.
* `Leg.InfiniteAt`: Where a leg reports an infinite speed.
* `Leg.GoesForward`: A leg that goes along its path and never back.

## Theorems

* `CubicStep.inverse_rise`: The inverse of the cubic step undoes it.
* `Easing.slope_of_vertical`, `Easing.slope_nonneg`: What slopes are reported.
* `Easing.progress_mono`: Progress grows with time.
* `Leg.distance_mono`, `Leg.speed_nonneg`: So does the distance.
* `goesForward_built`: Easings and phases never run backwards.
-/

namespace PlanarMotion

open Scalar

namespace CubicStep

theorem riseSlope_pos (t : ℝ) (hlow : 0 < t) (hhigh : t < 1) : 0 < riseSlope t := by
  rw [riseSlope_eq]
  exact mul_pos (mul_pos (by norm_num) hlow) (sub_pos.mpr hhigh)

/-- Within the unit interval the step rises all the time. -/
theorem strictMonoOn_rise : StrictMonoOn (rise : ℝ → ℝ) (Set.Icc 0 1) := by
  refine strictMonoOn_of_deriv_pos (convex_Icc 0 1)
    (fun t _ => (hasDerivAt_rise t).continuousAt.continuousWithinAt) fun t ht => ?_
  -- The derivative is asked for inside only, where it is positive.
  rw [interior_Icc] at ht
  rw [(hasDerivAt_rise t).deriv]
  exact riseSlope_pos t ht.1 ht.2

/-- The step stays in the unit interval. -/
theorem rise_mem (t : ℝ) (hlow : 0 ≤ t) (hhigh : t ≤ 1) : 0 ≤ rise t ∧ rise t ≤ 1 := by
  have hzero : rise (0 : ℝ) = 0 := by simp [rise_eq]
  have hone : rise (1 : ℝ) = 1 := by norm_num [rise_eq]
  have hmono := strictMonoOn_rise.monotoneOn
  constructor
  · rw [← hzero]
    exact hmono ⟨le_refl 0, zero_le_one⟩ ⟨hlow, hhigh⟩ hlow
  · rw [← hone]
    exact hmono ⟨hlow, hhigh⟩ ⟨zero_le_one, le_refl 1⟩ hhigh

/-- The inverse undoes the step, which takes no value twice. -/
theorem inverse_rise (t : ℝ) (hlow : 0 ≤ t) (hhigh : t ≤ 1) : inverse (rise t) = t := by
  rcases rise_mem t hlow hhigh with ⟨hnonneg, hle⟩
  -- Both sides are in the unit interval, and the step takes them to the same value.
  exact strictMonoOn_rise.injOn (inverse_mem (rise t)) ⟨hlow, hhigh⟩
    (rise_inverse (rise t) hnonneg hle)

end CubicStep

namespace Easing

variable (e : Easing)

/-- A curve is vertical at a time, and reports the mark for an infinite slope. -/
def VerticalAt (t : ℝ) : Prop :=
  e = .inverseSmoothStep ∧ (t ≤ 0 ∨ 1 ≤ t)

/-- An easing goes from zero to one and never back. -/
structure GoesForward : Prop where
  /-- Later is farther. -/
  mono : ∀ s t : ℝ, s ≤ t → e.progress s ≤ e.progress t
  /-- Progress is a fraction. -/
  mem : ∀ t : ℝ, 0 ≤ e.progress t ∧ e.progress t ≤ 1
  /-- It starts at zero. -/
  first : ∀ t : ℝ, t ≤ 0 → e.progress t = 0
  /-- It ends at one. -/
  last : ∀ t : ℝ, 1 ≤ t → e.progress t = 1
  /-- Its slope is infinite where the curve is vertical. -/
  infinite : ∀ t : ℝ, e.VerticalAt t → e.slope t = infinity
  /-- Its slope is nowhere negative. -/
  nonneg : ∀ t : ℝ, 0 ≤ e.slope t

/-- No curve is vertical between its ends. -/
theorem not_verticalAt (t : ℝ) (hlow : 0 < t) (hhigh : t < 1) : ¬ e.VerticalAt t := by
  intro hvertical
  rcases hvertical.2 with hend | hend
  · exact not_lt.mpr hend hlow
  · exact not_lt.mpr hend hhigh

/-- Sines and cosines of easings are taken within a quarter turn. -/
theorem quarterAngle_mem (t : ℝ) (hlow : 0 ≤ t) (hhigh : t ≤ 1) :
    0 ≤ quarterAngle t ∧ quarterAngle t ≤ Real.pi / 2 := by
  have hpi := Real.pi_pos
  rw [quarterAngle_eq]
  constructor
  · positivity
  · exact mul_le_of_le_one_left (by positivity) hhigh

/-- No slope is negative within the unit interval. The ends are left to the curves that are not
    vertical there. -/
theorem curveSlope_nonneg (t : ℝ) (hlow : 0 ≤ t) (hhigh : t ≤ 1) (h : ¬ e.VerticalAt t) :
    0 ≤ e.curveSlope t := by
  have hpi := Real.pi_pos
  have hquarter : 0 ≤ (quarterTurn : ℝ) := by
    rw [quarterTurn_eq]
    positivity
  rcases quarterAngle_mem t hlow hhigh with ⟨hnonneg, hle⟩
  cases e with
  | uniform => exact zero_le_one
  | sine =>
      have hcos : 0 ≤ Real.cos (quarterAngle t) :=
        Real.cos_nonneg_of_neg_pi_div_two_le_of_le (by linarith) hle
      exact mul_nonneg hquarter hcos
  | cosine =>
      have hsin : 0 ≤ Real.sin (quarterAngle t) :=
        Real.sin_nonneg_of_nonneg_of_le_pi hnonneg (by linarith)
      exact mul_nonneg hquarter hsin
  | smoothStep =>
      rw [curveSlope, CubicStep.riseSlope_eq]
      exact mul_nonneg (mul_nonneg (by norm_num) hlow) (sub_nonneg.mpr hhigh)
  | inverseSmoothStep =>
      -- Only here are the ends vertical, and they have been excluded.
      have hends : ¬ (t ≤ 0 ∨ 1 ≤ t) := fun hend => h ⟨rfl, hend⟩
      rw [not_or, not_le, not_le] at hends
      have hpos := CubicStep.riseSlope_inverse_pos t hends.1 hends.2
      simp only [curveSlope, CubicStep.inverseSlope, if_neg (not_le.mpr hpos)]
      exact one_div_nonneg.mpr hpos.le

/-- Within the unit interval a slope that is not negative makes a curve grow. -/
theorem monotoneOn_curve : MonotoneOn (e.curve : ℝ → ℝ) (Set.Icc 0 1) := by
  refine monotoneOn_of_deriv_nonneg (convex_Icc 0 1) e.continuous_curve.continuousOn
    (fun t ht => ?_) fun t ht => ?_
  · rw [interior_Icc] at ht
    exact (e.hasDerivAt_curve t ht.1 ht.2).differentiableAt.differentiableWithinAt
  · rw [interior_Icc] at ht
    rw [(e.hasDerivAt_curve t ht.1 ht.2).deriv]
    exact e.curveSlope_nonneg t ht.1.le ht.2.le (e.not_verticalAt t ht.1 ht.2)

theorem clamp_unit_mem (t : ℝ) : clamp t 0 1 ∈ Set.Icc (0 : ℝ) 1 := by
  rw [clamp_eq]
  exact ⟨le_max_left _ _, max_le zero_le_one (min_le_left _ _)⟩

/-- Later is farther, since clamping keeps the order and the curve grows. -/
theorem progress_mono (s t : ℝ) (h : s ≤ t) : e.progress s ≤ e.progress t :=
  e.monotoneOn_curve (clamp_unit_mem s) (clamp_unit_mem t)
    (sub_nonneg.mp (clamp_sub_mem s t 0 1 h).1)

/-- Progress is a fraction, since it is one at the latest and zero at the earliest. -/
theorem progress_mem (t : ℝ) : 0 ≤ e.progress t ∧ e.progress t ≤ 1 := by
  constructor
  · rw [← e.progress_of_le_zero (min t 0) (min_le_right t 0)]
    exact e.progress_mono _ t (min_le_left t 0)
  · rw [← e.progress_of_one_le (max t 1) (le_max_right t 1)]
    exact e.progress_mono t _ (le_max_left t 1)

/-- Keeping time in the unit interval keeps it at an end or not. -/
theorem verticalAt_clamp (t : ℝ) (h : e.VerticalAt (clamp t 0 1)) : e.VerticalAt t := by
  refine ⟨h.1, ?_⟩
  by_contra hinside
  rw [not_or, not_le, not_le] at hinside
  rw [clamp_of_mem t 0 1 hinside.1.le hinside.2.le] at h
  exact e.not_verticalAt t hinside.1 hinside.2 h

/-- Where a curve is vertical, the mark for an infinite slope is reported. -/
theorem slope_of_vertical (t : ℝ) (h : e.VerticalAt t) : e.slope t = infinity := by
  rcases h with ⟨rfl, hend⟩
  -- At both ends the inverse is at an end as well, where the step is level.
  have hlevel : ∀ x : ℝ, x = 0 ∨ x = 1 →
      CubicStep.riseSlope (inverseSmoothStep.curve x) ≤ 0 := by
    intro x hx
    rcases hx with rfl | rfl
    · rw [curve_zero, CubicStep.riseSlope_eq]
      norm_num
    · rw [curve_one, CubicStep.riseSlope_eq]
      norm_num
  have hclamp : clamp t 0 1 = 0 ∨ clamp t 0 1 = 1 :=
    hend.imp (clamp_of_le t 0 1) (clamp_of_ge t 0 1 zero_le_one)
  exact if_pos (hlevel _ hclamp)

theorem slope_nonneg (t : ℝ) : 0 ≤ e.slope t := by
  by_cases hvertical : e.VerticalAt t
  · rw [e.slope_of_vertical t hvertical]
    exact infinity_pos.le
  · rcases clamp_unit_mem t with ⟨hlow, hhigh⟩
    exact e.curveSlope_nonneg _ hlow hhigh fun hclamp => hvertical (e.verticalAt_clamp t hclamp)

theorem goesForward : e.GoesForward :=
  ⟨e.progress_mono, e.progress_mem, e.progress_of_le_zero, e.progress_of_one_le,
    e.slope_of_vertical, e.slope_nonneg⟩

end Easing

namespace Leg

variable (l : Leg ℝ)

/-- How far along its path a leg has come. -/
noncomputable def distance (time : ℝ) : ℝ :=
  l.easing.progress (l.relativeTime time) * l.path.length

/-- A leg moves while its easing is vertical. -/
def InfiniteAt (time : ℝ) : Prop :=
  l.easing.VerticalAt (l.relativeTime time) ∧ l.duration ≠ 0 ∧ l.path.length ≠ 0

/-- A leg goes along its path and never back. -/
structure GoesForward : Prop where
  /-- The pose is the one after the distance. -/
  pose : ∀ time, (l.motion.sample time).pose = l.path.pose (l.distance time)
  /-- Later is farther. -/
  mono : ∀ s t, s ≤ t → l.distance s ≤ l.distance t
  /-- The distance is within the path. -/
  mem : ∀ time, 0 ≤ l.distance time ∧ l.distance time ≤ l.path.length
  /-- Its speed is infinite where the slope is, unless it stands still. -/
  infinite : ∀ time, l.InfiniteAt time →
    (l.motion.sample time).speed = infinity * l.path.length / l.duration
  /-- Its speed is positive there. -/
  infinite_pos : ∀ time, l.InfiniteAt time → 0 < (l.motion.sample time).speed
  /-- Its speed is nowhere negative. -/
  nonneg : ∀ time, 0 ≤ (l.motion.sample time).speed

theorem speed_of_still (time : ℝ) (h : l.duration = 0 ∨ l.path.length = 0) :
    (l.motion.sample time).speed = 0 := by
  refine if_pos ?_
  rw [Bool.or_eq_true, real_beq_iff, real_beq_iff]
  exact h

theorem speed_of_moving (time : ℝ) (hduration : l.duration ≠ 0) (hlength : l.path.length ≠ 0) :
    (l.motion.sample time).speed
      = l.easing.slope (l.relativeTime time) * l.path.length / l.duration := by
  refine if_neg ?_
  rw [Bool.or_eq_true, real_beq_iff, real_beq_iff, not_or]
  exact ⟨hduration, hlength⟩

theorem speed_of_infinite (time : ℝ) (h : l.InfiniteAt time) :
    (l.motion.sample time).speed = infinity * l.path.length / l.duration := by
  rw [l.speed_of_moving time h.2.1 h.2.2, l.easing.slope_of_vertical _ h.1]

/-- Relative time goes on with time, and is over at once if there is no duration. -/
theorem relativeTime_mono (hduration : 0 ≤ l.duration) (s t : ℝ) (h : s ≤ t) :
    l.relativeTime s ≤ l.relativeTime t := by
  by_cases hzero : l.duration = 0
  -- All times count as the end.
  · have hover : ∀ time, l.relativeTime time = 1 :=
      fun time => if_pos ((real_beq_iff _ _).mpr hzero)
    rw [hover, hover]
  · rw [l.relativeTime_eq (lt_of_le_of_ne hduration (Ne.symm hzero)),
      l.relativeTime_eq (lt_of_le_of_ne hduration (Ne.symm hzero))]
    exact sub_nonneg.mp (clamp_sub_mem _ _ 0 1 (div_le_div_of_nonneg_right h hduration)).1

variable (hlength : 0 ≤ l.path.length)

include hlength

theorem distance_mono (hduration : 0 ≤ l.duration) (s t : ℝ) (h : s ≤ t) :
    l.distance s ≤ l.distance t :=
  mul_le_mul_of_nonneg_right
    (l.easing.progress_mono _ _ (l.relativeTime_mono hduration s t h)) hlength

theorem distance_mem (time : ℝ) : 0 ≤ l.distance time ∧ l.distance time ≤ l.path.length := by
  rcases l.easing.progress_mem (l.relativeTime time) with ⟨hlow, hhigh⟩
  exact ⟨mul_nonneg hlow hlength, mul_le_of_le_one_left hlength hhigh⟩

/-- A leg that does not stand still has its slope as a factor of its speed. -/
theorem speed_nonneg (hduration : 0 ≤ l.duration) (time : ℝ) :
    0 ≤ (l.motion.sample time).speed := by
  by_cases hstill : l.duration = 0 ∨ l.path.length = 0
  · exact (l.speed_of_still time hstill).ge
  · rw [not_or] at hstill
    -- All three factors are at least zero.
    have hslope := l.easing.slope_nonneg (l.relativeTime time)
    rw [l.speed_of_moving time hstill.1 hstill.2]
    exact div_nonneg (mul_nonneg hslope hlength) hduration

/-- An infinite speed is a positive one. -/
theorem speed_pos_of_infinite (hduration : 0 ≤ l.duration) (time : ℝ) (h : l.InfiniteAt time) :
    0 < (l.motion.sample time).speed := by
  -- It neither stands still nor takes no time, by what makes the speed infinite.
  have hlong : 0 < l.path.length := lt_of_le_of_ne hlength (Ne.symm h.2.2)
  have hlasting : 0 < l.duration := lt_of_le_of_ne hduration (Ne.symm h.2.1)
  rw [l.speed_of_infinite time h]
  exact div_pos (mul_pos infinity_pos hlong) hlasting

theorem goesForward (hduration : 0 ≤ l.duration) : l.GoesForward :=
  ⟨fun _ => rfl, l.distance_mono hlength hduration, l.distance_mem hlength, l.speed_of_infinite,
    l.speed_pos_of_infinite hlength hduration, l.speed_nonneg hlength hduration⟩

end Leg

/-- No path that is built has a negative length. -/
theorem PathBuilder.length_build_nonneg (cursor : Pose ℝ) (ss : List (Statement ℝ)) :
    0 ≤ ((ofCursor cursor).drawAll ss).build.length := by
  rw [Path.length_eq_sum_leaves]
  exact List.sum_nonneg (List.forall_mem_map.mpr (leaves_build_nonneg cursor ss))

/-- The legs of phases that take no negative time go forward. -/
theorem goesForward_phaseLegs (cursor : Pose ℝ) (phases : List (Phase ℝ))
    (h : ∀ phase ∈ phases, 0 ≤ phase.duration) : ∀ l ∈ phaseLegs cursor phases, l.GoesForward := by
  induction phases generalizing cursor with
  | nil => exact List.forall_mem_nil _
  | cons phase rest ih =>
      rw [List.forall_mem_cons] at h
      rw [phaseLegs, List.forall_mem_cons]
      exact ⟨Leg.goesForward _ (PathBuilder.length_build_nonneg cursor phase.statements) h.1,
        ih _ h.2⟩

/-- Motion never runs backwards. Every easing goes from zero to one and never back, the cubic step
    and its inverse undo each other, and each phase of a program that takes no negative time goes
    along its path and never back. -/
theorem goesForward_built :
    (∀ e : Easing, e.GoesForward) ∧
    (∀ t : ℝ, 0 ≤ t → t ≤ 1 → CubicStep.rise (CubicStep.inverse t) = t ∧
      CubicStep.inverse (CubicStep.rise t) = t) ∧
    ∀ p : Program ℝ, (∀ phase ∈ p.phases, 0 ≤ phase.duration) →
      ∀ l ∈ p.built.legs, l.GoesForward := by
  refine ⟨Easing.goesForward, fun t hlow hhigh =>
    ⟨CubicStep.rise_inverse t hlow hhigh, CubicStep.inverse_rise t hlow hhigh⟩,
    fun p hdurations => ?_⟩
  rw [Program.built, foldl_addPhase]
  exact goesForward_phaseLegs _ p.phases hdurations

/-- The last phase of a program, which is vertical at its start. -/
theorem goesForward_built_turnAndBack :
    (0 : ℝ) ≤ 1 / 4 ∧ (1 / 4 : ℝ) ≤ 1 ∧
      CubicStep.inverse (CubicStep.rise (1 / 4 : ℝ)) = 1 / 4 ∧
      (∀ phase ∈ turnAndBack.phases, 0 ≤ phase.duration) ∧
      ∃ l ∈ turnAndBack.built.legs, l.easing.VerticalAt (l.relativeTime 0) ∧ l.GoesForward := by
  have hlow : (0 : ℝ) ≤ 1 / 4 := by norm_num
  have hhigh : (1 / 4 : ℝ) ≤ 1 := by norm_num
  have hdurations : ∀ phase ∈ turnAndBack.phases, 0 ≤ phase.duration := by
    simp [turnAndBack]
  rcases goesForward_built with ⟨-, hundo, hlegs⟩
  have hlast := List.getLast_mem (l := turnAndBack.built.legs) (List.cons_ne_nil _ _)
  refine ⟨hlow, hhigh, (hundo _ hlow hhigh).2, hdurations, _, hlast, ⟨rfl, Or.inl ?_⟩,
    hlegs turnAndBack hdurations _ hlast⟩
  rw [Leg.relativeTime_eq]
  · rw [zero_div]
    exact (clamp_of_le 0 0 1 (le_refl 0)).le
  · exact three_pos

end PlanarMotion
