import PlanarMotion.Proofs.Build.Truth
import Mathlib.Data.Real.Sign

/-!
# Going Straight On

The continuing statements leave the cursor in its own direction. None of them hands the direction
over. A line has it from the difference of two points, a turn from the angle under which the center
sees the cursor, a quarter turn aside, and a curve from the difference of its first two points. Over
the real numbers all of them find the direction again, with the sign of the literal: a negative
length, radius or offset goes straight back.

A turn by an angle turns the direction by this angle, and the way from the center to the cursor with
it. That is the law of a turn, and nothing in it depends on how far the center is, as long as it is
somewhere else. At radius zero the center is at the cursor, which it sees under no angle. The angle
counts as zero then, and the cursor leaves as if it had gone along the ordinate, whatever its
direction was.

## Main definitions

* `Pose.GoesOn`: A direction is the one of the cursor, or the opposite one, by the sign of a literal.

## Theorems

* `Vec.rotate_ofAngle`: A rotation adds to the angle.
* `Vec.normalized_scale`: The direction of a multiple of a unit vector.
* `ofAngle_heading`: The direction in which a turn leaves the cursor.
* `PathBuilder.cursor_arcContinue`: The law of a turn.
* `PathBuilder.arcContinue_ne_rotate`: It fails at radius zero.
* `PathBuilder.goesOn_continue`: What continues goes on in the direction of the cursor.
-/

namespace PlanarMotion

namespace Vec

theorem rotate_x (a : Vec ℝ) (angle : ℝ) :
    (a.rotate angle).x = a.x * Real.cos angle - a.y * Real.sin angle :=
  rfl

theorem rotate_y (a : Vec ℝ) (angle : ℝ) :
    (a.rotate angle).y = a.x * Real.sin angle + a.y * Real.cos angle :=
  rfl

/-- A rotation adds to the angle. -/
theorem rotate_ofAngle (base angle radius : ℝ) :
    (ofAngle base radius).rotate angle = ofAngle (base + angle) radius := by
  ext
  · rw [rotate_x, ofAngle_x, ofAngle_y, ofAngle_x, Real.cos_add]
    ring
  · rw [rotate_y, ofAngle_x, ofAngle_y, ofAngle_y, Real.sin_add]
    ring

/-- The unit vector at the angle of a vector is its direction. -/
theorem ofAngle_angle_one (a : Vec ℝ) (h : a.length ≠ 0) : ofAngle a.angle 1 = a.normalized := by
  -- The vector is its length times the unit vector at its angle.
  have hx := congrArg x (ofAngle_angle a)
  have hy := congrArg y (ofAngle_angle a)
  rw [ofAngle_x] at hx
  rw [ofAngle_y] at hy
  unfold normalized
  simp only [if_neg (Scalar.not_real_beq h)]
  ext
  · rw [ofAngle_x, one_mul, eq_div_iff h, mul_comm, hx]
  · rw [ofAngle_y, one_mul, eq_div_iff h, mul_comm, hy]

/-- A multiple of a unit vector has its direction, or the opposite one. -/
theorem normalized_scale (a : Vec ℝ) (s : ℝ) (h : a.length = 1) :
    (a.scale s).normalized = a.scale (Real.sign s) := by
  have hlength : (a.scale s).length = |s| := by rw [length_scale, h, one_mul]
  by_cases hzero : s = 0
  · -- Neither side has a length.
    have hnone : a.scale (Real.sign s) = zero := by
      rw [hzero, Real.sign_zero]
      ext
      · exact mul_zero a.x
      · exact mul_zero a.y
    rw [hnone, ← length_eq_zero_iff_eq]
    refine length_normalized_of_zero _ ?_
    rw [hlength, hzero, abs_zero]
  · have habs : |s| ≠ 0 := abs_ne_zero.mpr hzero
    -- A number is its sign times its size, and normalizing divides by the size.
    have hsign : Real.sign s * |s| = s := by
      rcases lt_or_gt_of_ne hzero with hneg | hpos
      · rw [Real.sign_of_neg hneg, abs_of_neg hneg]
        ring
      · rw [Real.sign_of_pos hpos, abs_of_pos hpos, one_mul]
    have hscale := scale_normalized (a.scale s)
    rw [hlength] at hscale
    ext
    · refine mul_right_cancel₀ habs ((congrArg x hscale).trans ?_)
      rw [scale_x, scale_x, mul_assoc, hsign]
    · refine mul_right_cancel₀ habs ((congrArg y hscale).trans ?_)
      rw [scale_y, scale_y, mul_assoc, hsign]

end Vec

/-- A quarter turn to the side of a turn. -/
theorem ofAngle_add_quarter (base angle : ℝ) :
    Vec.ofAngle (base + if 0 < angle then Scalar.quarterTurn else -Scalar.quarterTurn) 1
      = (Vec.ofAngle base 1).perpendicular.scale (turnSide angle) := by
  rw [Scalar.quarterTurn_eq, turnSide]
  by_cases hleft : 0 < angle
  · rw [if_pos hleft, if_pos hleft]
    ext
    · simp [Real.cos_add_pi_div_two]
    · simp [Real.sin_add_pi_div_two]
  · rw [if_neg hleft, if_neg hleft, ← sub_eq_add_neg]
    ext
    · simp [Real.cos_sub_pi_div_two]
    · simp [Real.sin_sub_pi_div_two]

section Turn

variable (cursor : Pose ℝ) (radius angle : ℝ)

/-- The direction in which a turn leaves the cursor, seen from its center, is the one that the
    cursor has. -/
theorem ofAngle_heading (h : cursor.Headed) (hradius : radius ≠ 0) :
    Vec.ofAngle ((cursor.position - arcCenter cursor radius angle).angle
        + if 0 < angle then Scalar.quarterTurn else -Scalar.quarterTurn) 1
      = cursor.direction.scale (Real.sign radius) := by
  have hside := turnSide_eq_or angle
  have hnormal : cursor.direction.perpendicular.length = 1 := by
    rw [Vec.length_perpendicular]
    exact h
  -- The radius is not zero, so the way from the center has a direction.
  have hlength : (cursor.position - arcCenter cursor radius angle).length ≠ 0 := by
    rw [sub_arcCenter, Vec.length_scale, hnormal, one_mul, abs_ne_zero, neg_ne_zero]
    rcases hside with hside | hside
    · rw [hside, one_mul]
      exact hradius
    · rw [hside, neg_one_mul]
      exact neg_ne_zero.mpr hradius
  rw [ofAngle_add_quarter, Vec.ofAngle_angle_one _ hlength, sub_arcCenter,
    Vec.normalized_scale _ _ hnormal]
  -- Two quarter turns are a half turn. On either side the signs leave the one of the radius.
  have hsign : -(Real.sign (-(turnSide angle * radius)) * turnSide angle) = Real.sign radius := by
    rcases hside with hside | hside
    · rw [hside, one_mul, Real.sign_neg]
      ring
    · rw [hside, neg_one_mul, neg_neg]
      ring
  rw [← hsign]
  ext
  · simp only [Vec.scale_x, Vec.perpendicular_x, Vec.perpendicular_y, Vec.scale_y]
    ring
  · simp only [Vec.scale_x, Vec.perpendicular_x, Vec.perpendicular_y, Vec.scale_y]
    ring

end Turn

/-- A direction is the one of the cursor if a literal is positive, and the opposite one if it is
    negative. -/
def Pose.GoesOn (cursor : Pose ℝ) (literal : ℝ) (direction : Vec ℝ) : Prop :=
  (0 < literal → direction = cursor.direction) ∧ (literal < 0 → direction = -cursor.direction)

/-- A multiple of the cursor's direction by the sign of the literal goes on or back. -/
theorem Pose.goesOn_of_scale (cursor : Pose ℝ) (literal : ℝ) (direction : Vec ℝ)
    (h : literal ≠ 0 → direction = cursor.direction.scale (Real.sign literal)) :
    cursor.GoesOn literal direction := by
  constructor
  · intro hpos
    rw [h hpos.ne', Real.sign_of_pos hpos]
    ext
    · exact mul_one cursor.direction.x
    · exact mul_one cursor.direction.y
  · intro hneg
    rw [h hneg.ne, Real.sign_of_neg hneg]
    ext
    · exact mul_neg_one cursor.direction.x
    · exact mul_neg_one cursor.direction.y

namespace PathBuilder

section Law

variable (b : PathBuilder ℝ) (radius angle : ℝ)

/-- A turn turns the direction in which it leaves. -/
theorem direction_arcContinue : (b.arcContinue radius angle).cursor.direction
    = (Vec.ofAngle ((b.cursor.position - arcCenter b.cursor radius angle).angle
        + if 0 < angle then Scalar.quarterTurn else -Scalar.quarterTurn) 1).rotate angle := by
  rw [Vec.rotate_ofAngle, add_right_comm]
  -- The heading is a unit vector, so the cursor takes it over.
  exact b.cursor.direction_advance_of_ne_zero _ _ ((Vec.length_ofAngle _).trans_ne one_ne_zero)

/-- At radius zero the center is the cursor, and the angle of no way at all is zero. -/
theorem direction_arcContinue_zero : (b.arcContinue 0 angle).cursor.direction
    = Vec.rotate ⟨0, turnSide angle⟩ angle := by
  have hoffset : b.cursor.position - arcCenter b.cursor 0 angle = Vec.zero := by
    rw [sub_arcCenter, mul_zero, neg_zero]
    ext
    · exact mul_zero _
    · exact mul_zero _
  have hangle : (Vec.zero : Vec ℝ).angle = 0 := Complex.arg_zero
  rw [b.direction_arcContinue, hoffset, hangle, ofAngle_add_quarter]
  congr 1
  ext
  · simp
  · simp

/-- The law of a turn that goes on from a cursor. It turns the way from the center to the cursor, and
    the direction with it, or the opposite one if the radius is negative. At radius zero the
    direction of the cursor is forgotten, and one along the ordinate is turned in its place. -/
theorem cursor_arcContinue (h : b.cursor.Headed) :
    let center := arcCenter b.cursor radius angle
    let after := (b.arcContinue radius angle).cursor
    after.position = center + (b.cursor.position - center).rotate angle ∧
      (0 < radius → after.direction = b.cursor.direction.rotate angle) ∧
      (radius < 0 → after.direction = (-b.cursor.direction).rotate angle) ∧
      (radius = 0 → after.direction = Vec.rotate ⟨0, turnSide angle⟩ angle) := by
  intro center after
  have hdirection := b.direction_arcContinue radius angle
  -- Before it is turned, the heading is the direction of the cursor or the opposite one.
  have hgoes : b.cursor.GoesOn radius
      (Vec.ofAngle ((b.cursor.position - arcCenter b.cursor radius angle).angle
        + if 0 < angle then Scalar.quarterTurn else -Scalar.quarterTurn) 1) :=
    b.cursor.goesOn_of_scale _ _ (ofAngle_heading b.cursor radius angle h)
  refine ⟨?_, fun hpos => ?_, fun hneg => ?_, ?_⟩
  · have hposition : after.position
        = center + Vec.ofAngle ((b.cursor.position - center).angle + angle)
            (b.cursor.position - center).length := rfl
    rw [hposition, ← Vec.rotate_ofAngle, Vec.ofAngle_angle]
  · rw [hdirection, hgoes.1 hpos]
  · rw [hdirection, hgoes.2 hneg]
  · rintro rfl
    exact b.direction_arcContinue_zero angle

end Law

/-- A turn to the left and one to the right, with a radius. -/
theorem cursor_arcContinue_origin :
    (Pose.origin : Pose ℝ).Headed ∧
      ((ofCursor Pose.origin).arcContinue 2 7).cursor.direction
        = (Pose.origin : Pose ℝ).direction.rotate 7 ∧
      ((ofCursor Pose.origin).arcContinue 2 (-7)).cursor.direction
        = (Pose.origin : Pose ℝ).direction.rotate (-7) :=
  ⟨Pose.headed_origin,
    (cursor_arcContinue (ofCursor Pose.origin) 2 7 Pose.headed_origin).2.1 two_pos,
    (cursor_arcContinue (ofCursor Pose.origin) 2 (-7) Pose.headed_origin).2.1 two_pos⟩

/-- At radius zero the cursor does not turn by the angle. -/
theorem arcContinue_ne_rotate :
    (Pose.origin : Pose ℝ).Headed ∧
      ((ofCursor Pose.origin).arcContinue 0 1).cursor.direction
        ≠ (Pose.origin : Pose ℝ).direction.rotate 1 := by
  refine ⟨Pose.headed_origin, fun hsame => ?_⟩
  rw [direction_arcContinue_zero, turnSide, if_pos one_pos] at hsame
  have hx := congrArg Vec.x hsame
  have horigin : (Pose.origin : Pose ℝ).direction = ⟨1, 0⟩ := rfl
  rw [Vec.rotate_x, Vec.rotate_x, horigin] at hx
  -- Both the sine and the cosine are positive, and they would be opposite.
  have hsin : 0 < Real.sin 1 := Real.sin_pos_of_pos_of_le_one one_pos (le_refl 1)
  have hcos : 0 < Real.cos 1 := Real.cos_one_pos
  simp only [zero_mul, one_mul, zero_sub, sub_zero] at hx
  linarith

section Continue

variable (b : PathBuilder ℝ)

/-- A line that continues goes on in the direction of the cursor. -/
theorem goesOn_line (h : b.cursor.Headed) (length : ℝ) : b.cursor.GoesOn length
    (LineSegment.mk b.cursor.position (b.cursor.ahead length)).curve.first.direction := by
  refine b.cursor.goesOn_of_scale _ _ fun _ => ?_
  -- The way is the direction times the length, which may be negative.
  have hway : b.cursor.ahead length - b.cursor.position = b.cursor.direction.scale length := by
    ext
    · exact add_sub_cancel_left _ _
    · exact add_sub_cancel_left _ _
  have hfirst : (LineSegment.mk b.cursor.position (b.cursor.ahead length)).curve.first.direction
      = (b.cursor.ahead length - b.cursor.position).normalized := rfl
  rw [hfirst, hway, Vec.normalized_scale _ _ h]

/-- So does a turn, by any angle. A turn by no angle is one to the right. -/
theorem goesOn_arc (h : b.cursor.Headed) (radius angle : ℝ) : b.cursor.GoesOn radius
    (arcAround b.cursor (arcCenter b.cursor radius angle) angle).curve.first.direction := by
  refine b.cursor.goesOn_of_scale _ _ fun hradius => ?_
  -- The arc runs to the left exactly if the angle is positive.
  have hside : (arcAround b.cursor (arcCenter b.cursor radius angle) angle).startAngle
      < (arcAround b.cursor (arcCenter b.cursor radius angle) angle).endAngle ↔ 0 < angle :=
    lt_add_iff_pos_right _
  rw [Arc.direction_first, if_congr hside rfl rfl]
  exact ofAngle_heading b.cursor radius angle h hradius

/-- And a curve, whose derivative at the start is three times the way to its second point. -/
theorem goesOn_polyline (h : b.cursor.Headed) (c1Offset : ℝ) (c2 stop : Vec ℝ) (segments : Int) :
    b.cursor.GoesOn c1Offset (Polyline.ofBezier
      ⟨[b.cursor.position, b.cursor.ahead c1Offset, c2, stop]⟩ segments).startDirection := by
  refine b.cursor.goesOn_of_scale _ _ fun _ => ?_
  have hthree : (Scalar.ofNat 3 : ℝ) = 3 := Nat.cast_ofNat
  have hway : (b.cursor.ahead c1Offset - b.cursor.position).scale (Scalar.ofNat 3)
      = b.cursor.direction.scale (c1Offset * 3) := by
    rw [hthree]
    ext
    · simp only [Pose.ahead, Vec.scale_x, Vec.sub_x, Vec.add_x]
      ring
    · simp only [Pose.ahead, Vec.scale_y, Vec.sub_y, Vec.add_y]
      ring
  -- Three times the offset has the sign of the offset.
  have hsign : Real.sign (c1Offset * 3) = Real.sign c1Offset := by
    rcases lt_trichotomy c1Offset 0 with hneg | rfl | hpos
    · rw [Real.sign_of_neg hneg, Real.sign_of_neg (mul_neg_of_neg_of_pos hneg three_pos)]
    · rw [zero_mul]
    · rw [Real.sign_of_pos hpos, Real.sign_of_pos (mul_pos hpos three_pos)]
  have hstart : (Polyline.ofBezier
      ⟨[b.cursor.position, b.cursor.ahead c1Offset, c2, stop]⟩ segments).startDirection
      = ((b.cursor.ahead c1Offset - b.cursor.position).scale (Scalar.ofNat 3)).normalized :=
    congrArg Vec.normalized (Bezier.evaluate_zero _ _)
  rw [hstart, hway, Vec.normalized_scale _ _ h, hsign]

/-- What continues goes on in the direction of the cursor, or straight back where its literal is
    negative. This holds behind any statements that were drawn from a cursor with a direction. -/
theorem goesOn_continue (h : b.cursor.Headed) (ss : List (Statement ℝ)) :
    let drawn := b.drawAll ss
    (∀ length, ∃ s : LineSegment ℝ,
      (drawn.lineContinue length).pieces = drawn.pieces ++ [.line s] ∧
        drawn.cursor.GoesOn length s.curve.first.direction) ∧
    (∀ radius angle, ∃ a : Arc ℝ,
      (drawn.arcContinue radius angle).pieces = drawn.pieces ++ [.arc a] ∧
        drawn.cursor.GoesOn radius a.curve.first.direction) ∧
    (∀ c1Offset c2 stop segments, ∃ p : Polyline ℝ,
      (drawn.bezierContinue c1Offset c2 stop segments).pieces = drawn.pieces ++ [.polyline p] ∧
        drawn.cursor.GoesOn c1Offset p.startDirection) := by
  intro drawn
  have hdrawn : drawn.cursor.Headed := b.headed_drawAll ss h
  exact ⟨fun length => ⟨_, rfl, drawn.goesOn_line hdrawn length⟩,
    fun radius angle => ⟨_, rfl, drawn.goesOn_arc hdrawn radius angle⟩,
    fun c1Offset c2 stop segments =>
      ⟨_, rfl, drawn.goesOn_polyline hdrawn c1Offset c2 stop segments⟩⟩

end Continue

/-- A turn to the right behind a line, which starts in the direction of the line. -/
theorem goesOn_continue_line : (Pose.origin : Pose ℝ).Headed ∧
    let drawn := (ofCursor Pose.origin).drawAll [.line ⟨3, 4⟩]
    ∃ a : Arc ℝ, (drawn.arcContinue 2 (-1)).pieces = drawn.pieces ++ [.arc a] ∧
      a.curve.first.direction = drawn.cursor.direction := by
  refine ⟨Pose.headed_origin, ?_⟩
  rcases (goesOn_continue (ofCursor Pose.origin) Pose.headed_origin [.line ⟨3, 4⟩]).2.1 2 (-1)
    with ⟨a, hpieces, hgoes⟩
  exact ⟨a, hpieces, hgoes.1 two_pos⟩

end PathBuilder

end PlanarMotion
