import PlanarMotion.Proofs.Build.Joints
import PlanarMotion.Proofs.Motion.Continuity
import PlanarMotion.Proofs.Path.Leaves

/-!
# Reported Speed and Direction Are the Velocity

A sample reports a direction and a speed, and neither is computed from places: the direction is a
part of the pose, and the speed is a slope times a length over a duration. Over the real numbers
they are the velocity, wherever there is one. Lines and arcs are run through at unit speed in the
direction of their poses, for arcs in both senses and however far they turn. A path has the poses
of its leaves, so it does the same between the ends of each leaf. And the distance along the path
has the reported speed as its derivative, by the chain rule.

At the ends of leaves there need not be a velocity, since a path may have a corner there.

## Main definitions

* `Curve.UnitSpeedAt`: A curve runs in its direction at unit speed.

## Theorems

* `LineSegment.unitSpeedAt`, `Arc.unitSpeedAt`: Lines and arcs run at unit speed.
* `Path.unitSpeedAt`: So do paths inside their leaves.
* `Leg.hasDerivAt_distance`: The speed is the derivative of the distance.
* `hasDerivAt_position`: Speed and direction are the velocity.
-/

namespace PlanarMotion

open Scalar Filter Topology

/-- At a distance a curve runs in its direction, as far as the distance does. -/
def Curve.UnitSpeedAt (c : Curve ℝ) (t : ℝ) : Prop :=
  HasDerivAt (fun u => (c.pose u).position.x) (c.pose t).direction.x t ∧
    HasDerivAt (fun u => (c.pose u).position.y) (c.pose t).direction.y t

/-- Only the places nearby count. -/
theorem Curve.unitSpeedAt_of_place (c : Curve ℝ) (t : ℝ) (place : ℝ → Vec ℝ)
    (hplace : ∀ᶠ u in 𝓝 t, (c.pose u).position = place u)
    (hx : HasDerivAt (fun u => (place u).x) (c.pose t).direction.x t)
    (hy : HasDerivAt (fun u => (place u).y) (c.pose t).direction.y t) : c.UnitSpeedAt t :=
  ⟨hx.congr_of_eventuallyEq (hplace.mono fun _ h => congrArg Vec.x h),
    hy.congr_of_eventuallyEq (hplace.mono fun _ h => congrArg Vec.y h)⟩

/-- Strictly between the ends of a line nothing is clamped. -/
theorem LineSegment.unitSpeedAt (s : LineSegment ℝ) (t : ℝ) (hlow : 0 < t)
    (hhigh : t < s.length) : s.curve.UnitSpeedAt t := by
  -- A coordinate along a line is linear in the distance.
  have hline : ∀ start direction : ℝ, HasDerivAt (fun u => start + direction * u) direction t := by
    intro start direction
    simpa using ((hasDerivAt_id t).const_mul direction).const_add start
  refine s.curve.unitSpeedAt_of_place t (fun u => s.start + s.direction.scale u) ?_
    (hline s.start.x s.direction.x) (hline s.start.y s.direction.y)
  filter_upwards [Ioo_mem_nhds hlow hhigh] with u hu
  have hplace : (s.curve.pose u).position
      = s.start + s.direction.scale (clamp u 0 s.length) := rfl
  rw [hplace, clamp_of_mem u 0 _ hu.1.le hu.2.le]

namespace Arc

variable (a : Arc ℝ)

/-- An arc of some length has a radius. -/
theorem radius_pos_of_length_pos (h : 0 < a.length) : 0 < a.radius :=
  pos_of_mul_pos_right (a.length_eq ▸ h) (abs_nonneg _)

/-- The sense of an arc as a sign. -/
noncomputable def sense : ℝ :=
  if a.counterClockwise then 1 else -1

/-- With each distance the angle turns by one part of the radius, in the sense of the arc. -/
theorem hasDerivAt_angle (t : ℝ) (hpos : 0 < a.length) :
    HasDerivAt (fun u => a.startAngle + (a.endAngle - a.startAngle) * (u / a.length))
      (a.sense / a.radius) t := by
  have hradius := a.radius_pos_of_length_pos hpos
  have hsweep : a.endAngle - a.startAngle ≠ 0 := by
    intro hzero
    rw [a.length_eq, hzero, abs_zero, zero_mul] at hpos
    exact lt_irrefl 0 hpos
  have hslope : (a.endAngle - a.startAngle) * (1 / a.length) = a.sense / a.radius := by
    rw [a.length_eq, sense]
    -- The length is the sweep without its sign, times the radius.
    by_cases hleft : a.startAngle < a.endAngle
    · have hsense : a.counterClockwise = true := decide_eq_true hleft
      rw [if_pos hsense, abs_of_pos (sub_pos.mpr hleft)]
      field_simp
    · have hsense : ¬ a.counterClockwise = true := fun h => hleft (of_decide_eq_true h)
      have hright : a.endAngle - a.startAngle < 0 :=
        lt_of_le_of_ne (sub_nonpos.mpr (not_lt.mp hleft)) hsweep
      rw [if_neg hsense, abs_of_neg hright]
      field_simp
  have hpart := ((hasDerivAt_id t).div_const a.length).const_mul (a.endAngle - a.startAngle)
  exact (hpart.const_add a.startAngle).congr_deriv hslope

/-- The direction of an arc is square to its radius, in its sense. -/
theorem direction_eq (angle : ℝ) : (a.poseAtAngle angle).direction
    = ⟨-(a.sense * Real.sin angle), a.sense * Real.cos angle⟩ := by
  unfold poseAtAngle sense
  by_cases hsense : a.counterClockwise = true
  · simp only [if_pos hsense, one_mul]
    rfl
  · simp only [if_neg hsense, neg_one_mul, neg_neg]
    rfl

/-- An arc runs square to its radius. -/
theorem unitSpeedAt (t : ℝ) (hlow : 0 < t) (hhigh : t < a.length) : a.curve.UnitSpeedAt t := by
  have hpos := hlow.trans hhigh
  have hradius := (a.radius_pos_of_length_pos hpos).ne'
  have hangle := a.hasDerivAt_angle t hpos
  -- Nothing is clamped strictly between the ends, so the angle is linear in the distance.
  have hat : ∀ u, 0 < u → u < a.length →
      a.angleAt u = a.startAngle + (a.endAngle - a.startAngle) * (u / a.length) := by
    intro u hulow huhigh
    rw [a.angleAt_of_ne_zero hpos.ne', clamp_of_mem u 0 _ hulow.le huhigh.le]
  have hdirection : (a.curve.pose t).direction = ⟨-(a.sense * Real.sin (a.angleAt t)),
      a.sense * Real.cos (a.angleAt t)⟩ := a.direction_eq _
  refine a.curve.unitSpeedAt_of_place t (fun u => a.center + Vec.ofAngle
    (a.startAngle + (a.endAngle - a.startAngle) * (u / a.length)) a.radius) ?_ ?_ ?_
  · filter_upwards [Ioo_mem_nhds hlow hhigh] with u hu
    rw [← hat u hu.1 hu.2]
    rfl
  · -- The radius cancels: what it is wider the angle is slower.
    rw [hdirection, hat t hlow hhigh]
    refine ((hangle.cos.const_mul a.radius).const_add a.center.x).congr_deriv ?_
    field_simp
  · rw [hdirection, hat t hlow hhigh]
    refine ((hangle.sin.const_mul a.radius).const_add a.center.y).congr_deriv ?_
    field_simp

end Arc

namespace Path

/-- Inside its leaves a path runs at unit speed. -/
theorem unitSpeedAt (p : Path ℝ) (hnonneg : ∀ leaf ∈ p.leaves, 0 ≤ leaf.length) (t : ℝ)
    (hinside : p.Inside t) : p.curve.UnitSpeedAt t := by
  rcases hinside with ⟨front, leaf, back, hsplit, hlow, hhigh⟩
  have hfollows := p.followsLeaves hnonneg front leaf back
  -- The leaf is a line or an arc, and the distance within it is strictly between its ends.
  have hleaf : leaf.curve.UnitSpeedAt (t - (front.map length).sum) := by
    have hmem : leaf ∈ p.leaves := by
      rw [hsplit]
      exact List.mem_append_right _ List.mem_cons_self
    have hshort : t - (front.map length).sum < leaf.length := by linarith
    rcases p.mem_leaves leaf hmem with ⟨s, rfl⟩ | ⟨a, rfl⟩
    · exact s.unitSpeedAt _ (sub_pos.mpr hlow) hshort
    · exact a.unitSpeedAt _ (sub_pos.mpr hlow) hshort
  have hpose : p.curve.pose t = leaf.curve.pose (t - (front.map length).sum) :=
    hfollows t hsplit hlow hhigh
  refine p.curve.unitSpeedAt_of_place t
    (fun u => (leaf.curve.pose (u - (front.map length).sum)).position) ?_ ?_ ?_
  · filter_upwards [Ioo_mem_nhds hlow hhigh] with u hu
    exact congrArg Pose.position (hfollows u hsplit hu.1 hu.2)
  · rw [hpose]
    exact hleaf.1.comp_sub_const t _
  · rw [hpose]
    exact hleaf.2.comp_sub_const t _

end Path

section Builder

/-- No leaf that is built has a negative length: radii are measured as distances. -/
theorem Statement.leaves_nonneg (s : Statement ℝ) (cursor : Pose ℝ) (piece : Path ℝ)
    (h : s.piece? cursor = some piece) : ∀ leaf ∈ piece.leaves, 0 ≤ leaf.length := by
  cases s with
  | start point => cases h
  | line stop | lineContinue length =>
      rw [← Option.some.inj h]
      exact List.forall_mem_singleton.mpr (LineSegment.length_nonneg _)
  | arc center angle | arcContinue radius angle =>
      rw [← Option.some.inj h]
      exact List.forall_mem_singleton.mpr (Arc.length_nonneg _ (Vec.length_nonneg _))
  | bezier c1 c2 stop segments | bezierContinue c1Offset c2 stop segments =>
      rw [← Option.some.inj h]
      exact List.forall_mem_map.mpr fun chord _ => chord.length_nonneg

/-- No leaf of a path that is built has a negative length. -/
theorem PathBuilder.leaves_build_nonneg (cursor : Pose ℝ) (ss : List (Statement ℝ)) :
    ∀ leaf ∈ ((ofCursor cursor).drawAll ss).build.leaves, 0 ≤ leaf.length := by
  have hpieces := forall_pieces_drawAll Statement.leaves_nonneg (ofCursor cursor) ss
    (List.forall_mem_nil _)
  intro leaf hleaf
  rw [build, Path.leaves, Path.leavesOf_eq_flatMap] at hleaf
  rcases List.mem_flatMap.mp hleaf with ⟨piece, hpiece, hmem⟩
  exact hpieces piece hpiece leaf hmem

end Builder

/-- The reported speed is the derivative of the distance, also along a path without length. -/
theorem Leg.hasDerivAt_distance (l : Leg ℝ) (t : ℝ) (hlow : 0 < t) (hhigh : t < l.duration) :
    HasDerivAt (fun u => l.easing.progress (l.relativeTime u) * l.path.curve.length)
      (l.speedAt l.path.curve.length (l.relativeTime t)) t := by
  have hpos := hlow.trans hhigh
  -- Strictly within its duration the relative time is not clamped.
  have hmem : ∀ u, 0 < u → u < l.duration → l.relativeTime u = u / l.duration := by
    intro u hulow huhigh
    rw [l.relativeTime_eq hpos]
    exact clamp_of_mem _ 0 1 (div_nonneg hulow.le hpos.le) ((div_le_one hpos).mpr huhigh.le)
  have hrelative : HasDerivAt l.relativeTime (1 / l.duration) t := by
    refine ((hasDerivAt_id t).div_const l.duration).congr_of_eventuallyEq ?_
    filter_upwards [Ioo_mem_nhds hlow hhigh] with u hu
    exact hmem u hu.1 hu.2
  have hinside : 0 < l.relativeTime t ∧ l.relativeTime t < 1 := by
    rw [hmem t hlow hhigh]
    exact ⟨div_pos hlow hpos, (div_lt_one hpos).mpr hhigh⟩
  -- The chain rule, through the relative time.
  have hprogress := (l.easing.hasDerivAt_progress _ hinside.1 hinside.2).comp t hrelative
  refine (hprogress.mul_const l.path.curve.length).congr_deriv ?_
  unfold speedAt
  have hduration : (l.duration == 0) = false :=
    Bool.eq_false_iff.mpr (not_real_beq hpos.ne')
  -- A path without length is reported as standing still, and the product says so as well.
  by_cases hlength : l.path.curve.length = 0
  · rw [if_pos (by rw [(real_beq_iff _ _).mpr hlength, Bool.or_true]), hlength, mul_zero]
  · have hbeq : (l.path.curve.length == 0) = false :=
      Bool.eq_false_iff.mpr (not_real_beq hlength)
    rw [if_neg (by rw [hduration, hbeq]; exact Bool.false_ne_true)]
    ring

/-- Speed and direction are the velocity. Whatever statements draw the path, under each easing and
    at each time strictly between start and end, if the distance that has been covered is strictly
    inside a line, an arc or a chord, then the place has a derivative, and it is the direction of
    the sample scaled by its speed. -/
theorem hasDerivAt_position (cursor : Pose ℝ) (statements : List (Statement ℝ)) (duration : ℝ)
    (easing : Easing) (t : ℝ) (hlow : 0 < t) (hhigh : t < duration)
    (hinside : ((PathBuilder.ofCursor cursor).drawAll statements).build.Inside
      (easing.progress (t / duration)
        * ((PathBuilder.ofCursor cursor).drawAll statements).build.length)) :
    let m : Mover ℝ :=
      .leg ⟨((PathBuilder.ofCursor cursor).drawAll statements).build, duration, easing⟩
    HasDerivAt (fun u => (m.sample u).pose.position.x)
        ((m.sample t).pose.direction.scale (m.sample t).speed).x t ∧
      HasDerivAt (fun u => (m.sample u).pose.position.y)
        ((m.sample t).pose.direction.scale (m.sample t).speed).y t := by
  intro m
  let l : Leg ℝ := ⟨((PathBuilder.ofCursor cursor).drawAll statements).build, duration, easing⟩
  have hdistance := l.hasDerivAt_distance t hlow hhigh
  have hpos := hlow.trans hhigh
  have hrelative : l.relativeTime t = t / duration := by
    rw [l.relativeTime_eq hpos]
    exact clamp_of_mem _ 0 1 (div_nonneg hlow.le hpos.le) ((div_le_one hpos).mpr hhigh.le)
  have hpath : l.path.curve.UnitSpeedAt
      (l.easing.progress (l.relativeTime t) * l.path.curve.length) := by
    rw [hrelative]
    exact Path.unitSpeedAt _ (PathBuilder.leaves_build_nonneg cursor statements) _ hinside
  -- The place is a function of the distance, and the distance one of the time.
  have hx := hpath.1.comp t hdistance
  have hy := hpath.2.comp t hdistance
  exact ⟨hx, hy⟩

/-- A line, and then more than a full turn to the left. -/
noncomputable def lineAndTurn : PathBuilder ℝ :=
  (PathBuilder.ofCursor Pose.origin).drawAll [.line ⟨1, 0⟩, .arc ⟨1, 1⟩ 7]

/-- Half of the way is inside the turn. -/
theorem inside_lineAndTurn : lineAndTurn.build.Inside (1 / 2 * lineAndTurn.build.length) := by
  let s : LineSegment ℝ := ⟨Vec.zero, ⟨1, 0⟩⟩
  let a : Arc ℝ := arcAround ⟨⟨1, 0⟩, s.direction⟩ ⟨1, 1⟩ 7
  have hleaves : lineAndTurn.build.leaves = [.line s] ++ [.arc a] := rfl
  have hline : (Path.line s).length = 1 := by
    have hunit : ((1 : ℝ) - 0) ^ 2 + (0 - 0) ^ 2 = 1 := by norm_num
    exact (Vec.length_eq_one_iff _).mpr hunit
  have harc : (Path.arc a).length = 7 := by
    have hradius : a.radius = 1 := by
      have hunit : ((1 : ℝ) - 1) ^ 2 + (0 - 1) ^ 2 = 1 := by norm_num
      exact (Vec.length_eq_one_iff _).mpr hunit
    have hsweep : a.endAngle - a.startAngle = 7 := add_sub_cancel_left a.startAngle 7
    have hlength : (Path.arc a).length = |a.endAngle - a.startAngle| * a.radius := rfl
    rw [hlength, hsweep, hradius]
    norm_num
  -- The line is as long as one, and the turn as long as its angle.
  have htotal : lineAndTurn.build.length = 8 := by
    rw [Path.length_eq_sum_leaves, hleaves]
    simp only [List.map_append, List.map_singleton, List.sum_append, List.sum_singleton, hline,
      harc]
    norm_num
  refine ⟨[.line s], .arc a, [], hleaves, ?_, ?_⟩
  · rw [htotal, List.map_singleton, List.sum_singleton, hline]
    norm_num
  · rw [htotal, List.map_singleton, List.sum_singleton, hline, harc]
    norm_num

/-- Half of the time is half of the way, which is inside the turn. -/
theorem hasDerivAt_position_lineAndTurn :
    let m : Mover ℝ := .leg ⟨lineAndTurn.build, 2, .inverseSmoothStep⟩
    HasDerivAt (fun u => (m.sample u).pose.position.x)
        ((m.sample 1).pose.direction.scale (m.sample 1).speed).x 1 ∧
      HasDerivAt (fun u => (m.sample u).pose.position.y)
        ((m.sample 1).pose.direction.scale (m.sample 1).speed).y 1 := by
  have hprogress : Easing.inverseSmoothStep.progress (1 / 2 : ℝ) = 1 / 2 := by
    rw [Easing.progress, clamp_of_mem _ 0 1 (by norm_num) (by norm_num), Easing.curve,
      CubicStep.inverse_eq]
    norm_num
  refine hasDerivAt_position Pose.origin [.line ⟨1, 0⟩, .arc ⟨1, 1⟩ 7] 2 .inverseSmoothStep 1
    one_pos one_lt_two ?_
  rw [hprogress]
  exact inside_lineAndTurn

end PlanarMotion
