import PlanarMotion.Proofs.Plane.Reals
import Mathlib.Analysis.SpecialFunctions.Trigonometric.Bounds

/-!
# Distances in the Plane

The distance between two points is the length of their difference, and over the real numbers it
is the one of the complex plane. So it obeys the triangle inequality, which is all that gluing
pieces of a path needs to know. The one estimate that is about circles is that a chord is not
longer than its arc.

## Theorems

* `Vec.length_sub_le`: The triangle inequality, by way of a point in between.
* `Vec.length_scale`: The length of a multiple.
* `Vec.length_ofAngle_sub_le`: A chord is at most as long as its arc.
-/

namespace PlanarMotion

namespace Vec

/-- The length of a vector is the norm of a complex number, which has the triangle inequality. -/
theorem length_eq_norm (a : Vec ℝ) : a.length = ‖(⟨a.x, a.y⟩ : ℂ)‖ := by
  rw [length_eq, Complex.norm_eq_sqrt_sq_add_sq]

theorem length_add_le (a b : Vec ℝ) : (a + b).length ≤ a.length + b.length := by
  rw [length_eq_norm, length_eq_norm, length_eq_norm]
  exact norm_add_le (⟨a.x, a.y⟩ : ℂ) ⟨b.x, b.y⟩

/-- The way from one point to another is not longer by way of a third. -/
theorem length_sub_le (a b c : Vec ℝ) : (c - a).length ≤ (b - a).length + (c - b).length := by
  have hway : c - a = (b - a) + (c - b) := by
    ext
    · simp
    · simp
  rw [hway]
  exact length_add_le _ _

theorem length_sub_self (a : Vec ℝ) : (a - a).length = 0 := by
  rw [length_eq_zero_iff]
  exact ⟨sub_self a.x, sub_self a.y⟩

theorem length_scale (a : Vec ℝ) (s : ℝ) : (a.scale s).length = a.length * |s| := by
  have hsquares : (a.x * s) ^ 2 + (a.y * s) ^ 2 = (a.x ^ 2 + a.y ^ 2) * s ^ 2 := by ring
  rw [length_eq, length_eq, scale_x, scale_y, hsquares, Real.sqrt_mul (by positivity),
    Real.sqrt_sq_eq_abs]

theorem abs_x_le_length (a : Vec ℝ) : |a.x| ≤ a.length := by
  rw [length_eq]
  exact Real.abs_le_sqrt (le_add_of_nonneg_right (sq_nonneg a.y))

theorem abs_y_le_length (a : Vec ℝ) : |a.y| ≤ a.length := by
  rw [length_eq]
  exact Real.abs_le_sqrt (le_add_of_nonneg_left (sq_nonneg a.x))

/-- A chord is at most as long as its arc. -/
theorem length_ofAngle_sub_le (first last radius : ℝ) :
    (ofAngle last radius - ofAngle first radius).length ≤ |last - first| * |radius| := by
  -- The square of a chord is given by the cosine of its angle, which a parabola bounds.
  have hchord : (radius * Real.cos last - radius * Real.cos first) ^ 2
      + (radius * Real.sin last - radius * Real.sin first) ^ 2
      = radius ^ 2 * (2 - 2 * Real.cos (last - first)) := by
    rw [Real.cos_sub]
    linear_combination radius ^ 2 * (Real.sin_sq_add_cos_sq last + Real.sin_sq_add_cos_sq first)
  have hcos : 1 - (last - first) ^ 2 / 2 ≤ Real.cos (last - first) :=
    Real.one_sub_sq_div_two_le_cos
  have hbound : radius ^ 2 * (2 - 2 * Real.cos (last - first))
      ≤ (|last - first| * |radius|) ^ 2 := by
    have hangle : 2 - 2 * Real.cos (last - first) ≤ (last - first) ^ 2 := by linarith
    rw [mul_pow, sq_abs, sq_abs, mul_comm ((last - first) ^ 2)]
    exact mul_le_mul_of_nonneg_left hangle (sq_nonneg radius)
  rw [length_eq, sub_x, sub_y, ofAngle_x, ofAngle_x, ofAngle_y, ofAngle_y, hchord]
  exact Real.sqrt_le_iff.mpr ⟨by positivity, hbound⟩

end Vec

end PlanarMotion
