import PlanarMotion.Proofs.Plane.Reals
import Mathlib.Algebra.Group.ModEq

/-!
# Angles up to Whole Turns

A point knows its angle only up to whole turns, while the angle of a turn in a program may
be any number of them. Whoever asks a point for the angle at which it was drawn gets that
angle back with some turns taken away, and wrapping is what makes this harmless: it adds
whole turns, and what it gives is half a turn at most. Angles that are the same up to whole
turns and not equal are at least one turn apart, so at most one of them lies within half a
turn of a given angle.

## Theorems

* `Scalar.wrapAngle_mem`, `Scalar.wrapAngle_modEq`: What wrapping gives.
* `turn_le_abs_sub`: Angles that are the same up to whole turns are far apart.
* `Vec.exists_angle_ofAngle`: The angle of a point is the one at which it was drawn, up to
  whole turns.
-/

namespace PlanarMotion

namespace Scalar

/-- A wrapped angle is more than half a turn below zero and at most half a turn above. -/
theorem wrapAngle_mem (angle : ℝ) : wrapAngle angle ∈ Set.Ioc (-Real.pi) Real.pi := by
  have hpi := Real.two_pi_pos
  have hhalf : (pi : ℝ) = Real.pi := rfl
  have hmodulo : modulo angle (2 * Real.pi)
      = angle - 2 * Real.pi * ⌊angle / (2 * Real.pi)⌋ := rfl
  have hlow : 2 * Real.pi * ⌊angle / (2 * Real.pi)⌋ ≤ angle := by
    rw [mul_comm, ← le_div_iff₀ hpi]
    exact Int.floor_le _
  have hhigh : angle < 2 * Real.pi * ⌊angle / (2 * Real.pi)⌋ + 2 * Real.pi := by
    rw [mul_comm, ← add_one_mul, ← div_lt_iff₀ hpi]
    exact Int.lt_floor_add_one _
  unfold wrapAngle
  simp only [turn_eq, hhalf, hmodulo]
  -- The remainder is at least zero and less than a turn, and its upper half is moved down.
  by_cases hupper : Real.pi < angle - 2 * Real.pi * ⌊angle / (2 * Real.pi)⌋
  · rw [if_pos hupper]
    constructor
    · linarith
    · linarith
  · rw [if_neg hupper]
    constructor
    · linarith
    · exact not_lt.mp hupper

/-- Wrapping an angle adds whole turns. -/
theorem wrapAngle_modEq (angle : ℝ) : wrapAngle angle ≡ angle [PMOD 2 * Real.pi] := by
  rcases exists_wrapAngle angle with ⟨turns, hturns⟩
  rw [hturns, ← zsmul_eq_mul]
  exact AddCommGroup.add_zsmul_modEq turns

end Scalar

/-- Angles that are the same up to whole turns are equal or at least one turn apart. -/
theorem turn_le_abs_sub (a b : ℝ) (h : a ≡ b [PMOD 2 * Real.pi]) (hne : a ≠ b) :
    2 * Real.pi ≤ |a - b| := by
  rcases AddCommGroup.modEq_iff_zsmul.mp h.symm with ⟨turns, hturns⟩
  have hsome : turns ≠ 0 := by
    rintro rfl
    rw [zero_zsmul] at hturns
    exact hne (sub_eq_zero.mp hturns.symm)
  have hone : (1 : ℝ) ≤ |(turns : ℝ)| := by
    rw [← Int.cast_abs]
    exact_mod_cast Int.one_le_abs hsome
  rw [← hturns, zsmul_eq_mul, abs_mul, abs_of_pos Real.two_pi_pos]
  exact le_mul_of_one_le_left Real.two_pi_pos.le hone

namespace Vec

/-- The angle of a point is the one at which it was drawn, up to whole turns. -/
theorem exists_angle_ofAngle (angle radius : ℝ) (h : 0 < radius) : ∃ turns : ℤ,
    (ofAngle angle radius).angle = angle + turns * (2 * Real.pi) := by
  -- Both are the argument of the same complex number.
  have hpolar := Complex.arg_mul_cos_add_sin_mul_I_coe_angle h angle
  rw [Real.Angle.cos_coe, Real.Angle.sin_coe] at hpolar
  have harg : (ofAngle angle radius).angle
      = Complex.arg (radius * (Real.cos angle + Real.sin angle * Complex.I)) := by
    refine congrArg Complex.arg (Complex.ext ?_ ?_)
    · simp [-Complex.ofReal_cos, -Complex.ofReal_sin]
    · simp [-Complex.ofReal_cos, -Complex.ofReal_sin]
  rcases Real.Angle.angle_eq_iff_two_pi_dvd_sub.mp hpolar with ⟨turns, hturns⟩
  refine ⟨turns, ?_⟩
  rw [harg]
  linarith

end Vec

end PlanarMotion
