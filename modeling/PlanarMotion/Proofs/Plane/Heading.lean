import PlanarMotion.Proofs.Plane.Reals
import PlanarMotion.Build.PathBuilder

/-!
# The Cursor Keeps a Heading

Over the real numbers the direction of the cursor has length one, wherever drawing stands.
A piece ends in a direction that was normalized or made of an angle, so it has length one or
none at all; and where it has none the cursor keeps the direction it had. The claim is one
about the step, and a run of statements is an induction on its length.

The handles that lie on a line take the line from the cursor. That its direction is never
the zero vector is what makes them lie on a line at all. A turn that goes straight on has its
center square to the heading, on a side that is a sign.

## Main definitions

* `Pose.Headed`: A pose whose direction has length one.
* `turnSide`: The side of a turn as a sign.

## Theorems

* `PathBuilder.headed_draw`: One statement keeps the heading.
* `PathBuilder.headed_drawAll`: So do several.
* `sub_arcCenter`: The cursor, seen from the center of a turn.
-/

namespace PlanarMotion

/-- A pose whose direction has length one. -/
def Pose.Headed (pose : Pose ℝ) : Prop :=
  pose.direction.length = 1

/-- A drawing starts with a heading. -/
theorem Pose.headed_origin : (Pose.origin : Pose ℝ).Headed := by
  have hunit : (1 : ℝ) ^ 2 + 0 ^ 2 = 1 := by norm_num
  rw [Headed, Vec.length_eq_one_iff]
  exact hunit

/-- Without a direction of its own a piece leaves the cursor the old one. -/
theorem Pose.direction_advance_of_zero (cursor : Pose ℝ) (position direction : Vec ℝ)
    (h : direction.length = 0) :
    (cursor.advance position direction).direction = cursor.direction := by
  unfold advance
  simp only [if_pos ((Scalar.real_beq_iff _ _).mpr h)]

theorem Pose.direction_advance_of_ne_zero (cursor : Pose ℝ) (position direction : Vec ℝ)
    (h : direction.length ≠ 0) : (cursor.advance position direction).direction = direction := by
  unfold advance
  simp only [if_neg (Scalar.not_real_beq h)]

/-- The cursor keeps a heading, whether the piece has a direction or not. -/
theorem Pose.headed_advance (cursor : Pose ℝ) (position direction : Vec ℝ)
    (hcursor : cursor.Headed) (h : direction.length = 0 ∨ direction.length = 1) :
    (cursor.advance position direction).Headed := by
  unfold Headed at hcursor ⊢
  rcases h with hzero | hone
  · rw [cursor.direction_advance_of_zero position direction hzero]
    exact hcursor
  · rw [cursor.direction_advance_of_ne_zero position direction (hone.trans_ne one_ne_zero)]
    exact hone

namespace PathBuilder

theorem headed_line (b : PathBuilder ℝ) (stop : Vec ℝ) (h : b.cursor.Headed) :
    (b.line stop).cursor.Headed :=
  b.cursor.headed_advance _ _ h (Vec.length_normalized _)

theorem headed_arc (b : PathBuilder ℝ) (center : Vec ℝ) (angle : ℝ) (h : b.cursor.Headed) :
    (b.arc center angle).cursor.Headed :=
  b.cursor.headed_advance _ _ h (Or.inr (Vec.length_ofAngle _))

theorem headed_bezier (b : PathBuilder ℝ) (c1 c2 stop : Vec ℝ) (segments : Int)
    (h : b.cursor.Headed) : (b.bezier c1 c2 stop segments).cursor.Headed :=
  b.cursor.headed_advance _ _ h (Vec.length_normalized _)

/-- One statement keeps the heading. The continuing forms are the others at a point that
    depends on the cursor. -/
theorem headed_draw (b : PathBuilder ℝ) (s : Statement ℝ) (h : b.cursor.Headed) :
    (b.draw s).cursor.Headed := by
  cases s with
  | start point => exact h
  | line stop => exact b.headed_line stop h
  -- The line goes on to a point ahead of the cursor, but it is a line.
  | lineContinue length => exact b.headed_line _ h
  | arc center angle => exact b.headed_arc center angle h
  | arcContinue radius angle => exact b.headed_arc _ angle h
  | bezier c1 c2 stop segments => exact b.headed_bezier c1 c2 stop _ h
  | bezierContinue c1Offset c2 stop segments => exact b.headed_bezier _ c2 stop _ h

theorem headed_drawAll (b : PathBuilder ℝ) (statements : List (Statement ℝ))
    (h : b.cursor.Headed) : (b.drawAll statements).cursor.Headed := by
  induction statements generalizing b with
  | nil => exact h
  | cons s rest ih => exact ih (b.draw s) (b.headed_draw s h)

end PathBuilder

/-- The side of a turn as a sign. -/
noncomputable def turnSide (angle : ℝ) : ℝ :=
  if 0 < angle then 1 else -1

theorem turnSide_eq_or (angle : ℝ) : turnSide angle = 1 ∨ turnSide angle = -1 :=
  ite_eq_or_eq _ _ _

theorem abs_turnSide (angle : ℝ) : |turnSide angle| = 1 := by
  rcases turnSide_eq_or angle with hleft | hright
  · rw [hleft, abs_one]
  · rw [hright, abs_neg, abs_one]

/-- The cursor, seen from the center of a turn. -/
theorem sub_arcCenter (cursor : Pose ℝ) (radius angle : ℝ) :
    cursor.position - arcCenter cursor radius angle
      = cursor.direction.perpendicular.scale (-(turnSide angle * radius)) := by
  unfold arcCenter turnSide
  simp only
  -- The center is a quarter turn to the side that the arc turns to.
  by_cases hright : angle ≤ 0
  · rw [if_pos hright, if_neg (not_lt.mpr hright)]
    ext
    · simp
    · simp
  · rw [if_neg hright, if_pos (not_le.mp hright)]
    ext
    · simp
    · simp

end PlanarMotion
