import PlanarMotion.Proofs.Plane.Reals
import Mathlib.Tactic.LinearCombination

/-!
# Projections

Where the part of a point is that a line or a circle can keep. Both notions are stated by
what characterises the image and not by a formula, so that they can be held against code
that computes it in any way: on a line the part that is dropped is square to the line, and
on a circle the image lies on the ray to the point.

There is one image each, which `IsProjection.unique` and `IsOnRay.unique` confirm.

## Main definitions

* `IsProjection`: The orthogonal projection on a line.
* `IsOnRay`: The point at a distance from a center on the ray to another point.

## Theorems

* `isProjection_scale`: The multiple that an inner product asks for is a projection.
* `isOnRay_ofAngle`: The point at the angle of another is on the ray to it.
* `IsProjection.unique`, `IsOnRay.unique`: There is only one such point.
-/

namespace PlanarMotion

/-- A point is the orthogonal projection of another on the line through an anchor along a
    direction of length one. -/
structure IsProjection (anchor direction point image : Vec ℝ) : Prop where
  /-- The direction has length one, so there is a line. -/
  unit : direction.length = 1
  /-- The image lies on the line. -/
  on_line : ∃ t, image = anchor + direction.scale t
  /-- What the projection drops is square to the line. -/
  orthogonal : (point - image).dot direction = 0

/-- A point is on the ray from a center to another point, at a given distance. -/
structure IsOnRay (center : Vec ℝ) (radius : ℝ) (point image : Vec ℝ) : Prop where
  /-- The image lies on the ray. -/
  on_ray : ∃ t, 0 ≤ t ∧ image = center + (point - center).scale t
  /-- The image has the distance. -/
  distance : (image - center).length = radius

/-- The multiple of a unit vector that an inner product with it asks for is a projection. -/
theorem isProjection_scale (anchor direction point : Vec ℝ) (h : direction.length = 1) :
    IsProjection anchor direction point
      (anchor + direction.scale ((point - anchor).dot direction)) := by
  refine ⟨h, ⟨_, rfl⟩, ?_⟩
  rw [Vec.length_eq_one_iff] at h
  simp only [Vec.dot_eq, Vec.sub_x, Vec.sub_y, Vec.add_x, Vec.add_y, Vec.scale_x, Vec.scale_y]
  linear_combination (-((point.x - anchor.x) * direction.x
    + (point.y - anchor.y) * direction.y)) * h

/-- A point has one projection. -/
theorem IsProjection.unique (anchor direction point a b : Vec ℝ)
    (ha : IsProjection anchor direction point a) (hb : IsProjection anchor direction point b) :
    a = b := by
  rcases ha with ⟨hunit, ⟨s, rfl⟩, horthogonal⟩
  rcases hb with ⟨-, ⟨t, rfl⟩, horthogonal'⟩
  rw [Vec.length_eq_one_iff] at hunit
  simp only [Vec.dot_eq, Vec.sub_x, Vec.sub_y, Vec.add_x, Vec.add_y, Vec.scale_x, Vec.scale_y]
    at horthogonal horthogonal'
  -- The two inner products differ by the difference of the multiples.
  have hsame : s = t := by
    linear_combination horthogonal' - horthogonal - (s - t) * hunit
  rw [hsame]

theorem length_sub_pos (point center : Vec ℝ) (hne : point ≠ center) :
    0 < (point - center).length := by
  refine lt_of_le_of_ne (Vec.length_nonneg _) (fun hzero => hne ?_)
  rcases (Vec.length_eq_zero_iff _).mp hzero.symm with ⟨hx, hy⟩
  ext
  · exact sub_eq_zero.mp hx
  · exact sub_eq_zero.mp hy

/-- The point at the angle of another one is on the ray to it. -/
theorem isOnRay_ofAngle (center point : Vec ℝ) (radius : ℝ) (hradius : 0 ≤ radius)
    (hne : point ≠ center) :
    IsOnRay center radius point (center + Vec.ofAngle (point - center).angle radius) := by
  have hpos := length_sub_pos point center hne
  constructor
  -- The direction of the ray is the one of the other point, whose length divides out.
  · refine ⟨radius / (point - center).length, div_nonneg hradius hpos.le, ?_⟩
    have hx := congrArg Vec.x (Vec.ofAngle_angle (point - center))
    have hy := congrArg Vec.y (Vec.ofAngle_angle (point - center))
    rw [Vec.ofAngle_x] at hx
    rw [Vec.ofAngle_y] at hy
    ext
    · rw [Vec.add_x, Vec.add_x, Vec.scale_x, Vec.ofAngle_x, ← hx]
      field_simp
    · rw [Vec.add_y, Vec.add_y, Vec.scale_y, Vec.ofAngle_y, ← hy]
      field_simp
  · rw [Vec.length_eq]
    simp only [Vec.sub_x, Vec.sub_y, Vec.add_x, Vec.add_y, Vec.ofAngle_x, Vec.ofAngle_y,
      add_sub_cancel_left, mul_pow]
    rw [← mul_add, Real.cos_sq_add_sin_sq, mul_one, Real.sqrt_sq hradius]

/-- A ray has one point at each distance. -/
theorem IsOnRay.unique (center point a b : Vec ℝ) (radius : ℝ) (hne : point ≠ center)
    (ha : IsOnRay center radius point a) (hb : IsOnRay center radius point b) : a = b := by
  rcases ha with ⟨⟨s, hs, rfl⟩, hdistance⟩
  rcases hb with ⟨⟨t, ht, rfl⟩, hdistance'⟩
  have hpos := length_sub_pos point center hne
  -- Both multiples are the radius over the distance of the point.
  have hscale : ∀ r, 0 ≤ r → (center + (point - center).scale r - center).length
      = (point - center).length * r := by
    intro r hr
    rw [Vec.length_eq, Vec.length_eq]
    simp only [Vec.sub_x, Vec.sub_y, Vec.add_x, Vec.add_y, Vec.scale_x, Vec.scale_y,
      add_sub_cancel_left, mul_pow]
    rw [← add_mul, Real.sqrt_mul (by positivity), Real.sqrt_sq hr]
  rw [hscale s hs] at hdistance
  rw [hscale t ht] at hdistance'
  have hsame : s = t := mul_left_cancel₀ hpos.ne' (hdistance.trans hdistance'.symm)
  rw [hsame]

end PlanarMotion
