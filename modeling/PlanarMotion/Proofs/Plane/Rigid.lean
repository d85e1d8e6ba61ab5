import PlanarMotion.Proofs.Plane.Turns

/-!
# Rigid Motions of the Plane

A rotation followed by a translation moves points, and turns the vectors between them. Whatever is
made of vectors without naming a coordinate is turned along: sums and multiples, quarter turns,
unit vectors, and points between others. Lengths stay as they are.

Angles are the one thing that is told from coordinates. The angle of a turned vector is the old one
and the angle of the rotation, up to whole turns, if the vector has an angle at all. The zero vector
has none, and is said to have the angle zero however it is turned.

## Main definitions

* `RigidMotion`: A rotation followed by a translation.
* `RigidMotion.direction`, `RigidMotion.point`, `RigidMotion.pose`: What it makes of vectors, points
  and poses.

## Theorems

* `RigidMotion.point_add`, `RigidMotion.point_sub`, `RigidMotion.point_lerp`: Points are moved, and
  the vectors between them turned.
* `RigidMotion.length_direction`, `RigidMotion.direction_normalized`: Lengths stay.
* `RigidMotion.direction_ofAngle_add`, `RigidMotion.exists_angle_direction`: Angles, up to whole
  turns.
-/

namespace PlanarMotion

/-- A rotation followed by a translation. -/
structure RigidMotion where
  /-- The angle of the rotation. -/
  angle : ℝ
  /-- The translation. -/
  shift : Vec ℝ

namespace RigidMotion

variable (r : RigidMotion)

/-- A vector after a rigid motion. -/
noncomputable def direction (v : Vec ℝ) : Vec ℝ :=
  v.rotate r.angle

/-- A point after a rigid motion. -/
noncomputable def point (p : Vec ℝ) : Vec ℝ :=
  p.rotate r.angle + r.shift

/-- A pose after a rigid motion. -/
noncomputable def pose (p : Pose ℝ) : Pose ℝ :=
  ⟨r.point p.position, r.direction p.direction⟩

variable (a b v : Vec ℝ) (s : ℝ)

@[simp]
theorem direction_x : (r.direction v).x = v.x * Real.cos r.angle - v.y * Real.sin r.angle :=
  rfl

@[simp]
theorem direction_y : (r.direction v).y = v.x * Real.sin r.angle + v.y * Real.cos r.angle :=
  rfl

theorem point_eq : r.point a = r.direction a + r.shift :=
  rfl

theorem direction_zero : r.direction Vec.zero = Vec.zero := by
  ext <;> simp [Vec.zero]

theorem direction_add : r.direction (a + b) = r.direction a + r.direction b := by
  ext
  · simp only [direction_x, Vec.add_x, Vec.add_y]
    ring
  · simp only [direction_y, Vec.add_x, Vec.add_y]
    ring

theorem direction_neg : r.direction (-v) = -r.direction v := by
  ext
  · simp only [direction_x, Vec.neg_x, Vec.neg_y]
    ring
  · simp only [direction_y, Vec.neg_x, Vec.neg_y]
    ring

theorem direction_scale : r.direction (v.scale s) = (r.direction v).scale s := by
  ext
  · simp only [direction_x, Vec.scale_x, Vec.scale_y]
    ring
  · simp only [direction_y, Vec.scale_x, Vec.scale_y]
    ring

theorem direction_perpendicular : r.direction v.perpendicular = (r.direction v).perpendicular := by
  ext
  · simp only [direction_x, direction_y, Vec.perpendicular_x, Vec.perpendicular_y]
    ring
  · simp only [direction_x, direction_y, Vec.perpendicular_x, Vec.perpendicular_y]
    ring

/-- A vector at a point is turned as the point is moved. -/
theorem point_add : r.point (a + v) = r.point a + r.direction v := by
  rw [point_eq, point_eq, direction_add]
  ext
  · simp only [Vec.add_x]
    ring
  · simp only [Vec.add_y]
    ring

/-- The vector between two points is turned. -/
theorem point_sub : r.point a - r.point b = r.direction (a - b) := by
  have hway : a = b + (a - b) := by ext <;> simp
  have hmoved := r.point_add b (a - b)
  rw [← hway] at hmoved
  rw [hmoved]
  ext <;> simp

theorem direction_lerp : r.direction (a.lerp b s) = (r.direction a).lerp (r.direction b) s := by
  -- A point on the way is made of sums and multiples, which are turned one by one.
  have hway : ∀ p q : Vec ℝ, p.lerp q s = p + (q + -p).scale s := by
    intro p q
    ext <;> simp [Vec.lerp, Scalar.lerp, sub_eq_add_neg]
  rw [hway, hway, direction_add, direction_scale, direction_add, direction_neg]

theorem point_lerp : r.point (a.lerp b s) = (r.point a).lerp (r.point b) s := by
  rw [point_eq, point_eq, point_eq, direction_lerp]
  ext
  · simp only [Vec.lerp, Scalar.lerp, Vec.add_x]
    ring
  · simp only [Vec.lerp, Scalar.lerp, Vec.add_y]
    ring

theorem length_direction : (r.direction v).length = v.length := by
  rw [Vec.length_eq, Vec.length_eq, direction_x, direction_y]
  congr 1
  -- The mixed products cancel, and what is left has a cosine and a sine squared.
  linear_combination (v.x ^ 2 + v.y ^ 2) * Real.cos_sq_add_sin_sq r.angle

theorem direction_normalized : (r.direction v).normalized = r.direction v.normalized := by
  unfold Vec.normalized
  simp only [r.length_direction v]
  -- The zero vector is not turned, and any other one is divided by its length.
  by_cases hzero : v.length = 0
  · rw [if_pos ((Scalar.real_beq_iff _ _).mpr hzero), if_pos ((Scalar.real_beq_iff _ _).mpr hzero),
      direction_zero]
  · rw [if_neg (Scalar.not_real_beq hzero), if_neg (Scalar.not_real_beq hzero)]
    ext
    · simp only [direction_x]
      ring
    · simp only [direction_y]
      ring

/-- The vector at an angle is turned to another angle. -/
theorem direction_ofAngle (angle radius : ℝ) :
    r.direction (Vec.ofAngle angle radius) = Vec.ofAngle (angle + r.angle) radius := by
  ext
  · rw [direction_x, Vec.ofAngle_x, Vec.ofAngle_y, Vec.ofAngle_x, Real.cos_add]
    ring
  · rw [direction_y, Vec.ofAngle_x, Vec.ofAngle_y, Vec.ofAngle_y, Real.sin_add]
    ring

/-- Whole turns in between, and an angle that is added to both, make no difference. -/
theorem direction_ofAngle_add (angle extra radius : ℝ) (turns : ℤ) :
    r.direction (Vec.ofAngle (angle + extra) radius)
      = Vec.ofAngle (angle + r.angle + turns * (2 * Real.pi) + extra) radius := by
  rw [r.direction_ofAngle, ← Vec.ofAngle_add_turns (angle + extra + r.angle) radius turns]
  congr 1
  ring

/-- A vector that has an angle has it turned, up to whole turns. -/
theorem exists_angle_direction (h : 0 < v.length) : ∃ turns : ℤ,
    (r.direction v).angle = v.angle + r.angle + turns * (2 * Real.pi) := by
  have hturned : r.direction v = Vec.ofAngle (v.angle + r.angle) v.length := by
    rw [← direction_ofAngle, Vec.ofAngle_angle]
  rw [hturned]
  exact Vec.exists_angle_ofAngle _ _ h

end RigidMotion

end PlanarMotion
