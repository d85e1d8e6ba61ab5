import PlanarMotion.Vec
import Mathlib.Analysis.SpecialFunctions.Complex.Arg
import Mathlib.Analysis.SpecialFunctions.Trigonometric.Inverse

/-!
# The Plane over the Real Numbers

The geometry of this library is written over any scalars, and what it is meant to compute is
what it computes over the real numbers. This module makes these scalars. Every operation is
the one that its name says: the remainder has the sign of the divisor because it is taken
with the floor, and the angle of a point is the argument of a complex number, which lies
above minus half a turn and is zero for the origin. No real number is infinite, so no angle
is ever refused, and for a vertical slope stands a positive number of which nothing else is
known. What is proved with it holds of every positive number, however large.

Two facts carry the rest. A vector is the point at its angle and its length, without any
condition, since the origin has length zero. And wrapping an angle adds whole turns, which
no sine can see.

## Main definitions

* `instScalarReal`: The real numbers as scalars.

## Theorems

* `Scalar.infinity_pos`: The stand-in for a vertical slope is positive.
* `Scalar.clamp_eq`: Clamping is a maximum of a minimum.
* `Vec.ofAngle_angle`: A vector is the point at its angle and its length.
* `Vec.normalized_of_length`: A unit vector is its own direction.
* `Vec.length_normalized`: A direction has length one, or zero if there is none.
* `Vec.rotate_quarterTurn`: A quarter turn is exact.
* `Vec.ofAngle_wrapAngle`: An angle may be wrapped.
-/

namespace PlanarMotion

noncomputable instance instScalarReal : Scalar ℝ where
  natCast n := n
  beq a b := decide (a = b)
  decideLt a b := Classical.dec (a < b)
  decideLe a b := Classical.dec (a ≤ b)
  abs a := |a|
  hypot x y := √(x ^ 2 + y ^ 2)
  modulo x y := x - y * ⌊x / y⌋
  pi := Real.pi
  sin := Real.sin
  cos := Real.cos
  asin := Real.arcsin
  atan2 y x := Complex.arg ⟨x, y⟩
  infinity := Classical.choose (exists_gt (0 : ℝ))
  isInfinite _ := false

-- Both scalars and fields divide; this says once which division is meant.
noncomputable instance instDivReal : Div ℝ :=
  DivInvMonoid.toDiv

namespace Scalar

theorem real_beq_iff (a b : ℝ) : (a == b) = true ↔ a = b :=
  decide_eq_true_iff

theorem not_real_beq {a b : ℝ} (h : a ≠ b) : ¬ (a == b) = true :=
  fun hbeq => h ((real_beq_iff a b).mp hbeq)

/-- All that is known of the stand-in for a vertical slope. -/
theorem infinity_pos : 0 < (infinity : ℝ) :=
  Classical.choose_spec (exists_gt (0 : ℝ))

theorem turn_eq : (turn : ℝ) = 2 * Real.pi := by
  have htwo : ((2 : ℕ) : ℝ) = 2 := Nat.cast_ofNat
  rw [← htwo]
  rfl

theorem quarterTurn_eq : (quarterTurn : ℝ) = Real.pi / 2 := by
  have htwo : ((2 : ℕ) : ℝ) = 2 := Nat.cast_ofNat
  rw [← htwo]
  rfl

/-- Wrapping adds whole turns: those the remainder takes away, and one more for an angle in
    the upper half of what is left. -/
theorem exists_wrapAngle (angle : ℝ) : ∃ turns : ℤ,
    wrapAngle angle = angle + turns * (2 * Real.pi) := by
  have hmodulo : modulo angle (2 * Real.pi)
      = angle - 2 * Real.pi * ⌊angle / (2 * Real.pi)⌋ := rfl
  unfold wrapAngle
  simp only [turn_eq, hmodulo]
  -- The remainder is a turn less for each whole turn, and the upper half is moved down by one.
  split
  · refine ⟨-⌊angle / (2 * Real.pi)⌋ - 1, ?_⟩
    push_cast
    ring
  · refine ⟨-⌊angle / (2 * Real.pi)⌋, ?_⟩
    push_cast
    ring

theorem lesser_eq (a b : ℝ) : lesser a b = min a b := by
  unfold lesser
  by_cases h : b < a
  · rw [if_pos h, min_eq_right h.le]
  · rw [if_neg h, min_eq_left (not_lt.mp h)]

theorem greater_eq (a b : ℝ) : greater a b = max a b := by
  unfold greater
  by_cases h : a < b
  · rw [if_pos h, max_eq_right h.le]
  · rw [if_neg h, max_eq_left (not_lt.mp h)]

theorem clamp_eq (value low high : ℝ) : clamp value low high = max low (min high value) := by
  rw [clamp, lesser_eq, greater_eq]

theorem clamp_of_le (value low high : ℝ) (h : value ≤ low) : clamp value low high = low := by
  rw [clamp_eq, max_eq_left (min_le_of_right_le h)]

theorem clamp_of_ge (value low high : ℝ) (hle : low ≤ high) (h : high ≤ value) :
    clamp value low high = high := by
  rw [clamp_eq, min_eq_left h, max_eq_right hle]

theorem clamp_of_mem (value low high : ℝ) (hlow : low ≤ value) (hhigh : value ≤ high) :
    clamp value low high = value := by
  rw [clamp_eq, min_eq_right hhigh, max_eq_right hlow]

theorem continuous_clamp (low high : ℝ) : Continuous fun t => clamp t low high := by
  simp only [clamp_eq]
  exact continuous_const.max (continuous_const.min continuous_id)

/-- Clamping keeps the order of two numbers and does not move them apart. -/
theorem clamp_sub_mem (s t low high : ℝ) (h : s ≤ t) :
    0 ≤ clamp t low high - clamp s low high ∧ clamp t low high - clamp s low high ≤ t - s := by
  rw [clamp_eq, clamp_eq]
  constructor
  · exact sub_nonneg.mpr (max_le_max_left low (min_le_min_left high h))
  -- Raising the upper number by the difference raises each of the bounded ones by at most that.
  · have hmin : min high t ≤ min high s + (t - s) := by
      rw [← min_add_add_right, add_sub_cancel]
      exact min_le_min_right t (by linarith)
    have hmax : max low (min high t) ≤ max low (min high s) + (t - s) := by
      rw [← max_add_add_right]
      exact max_le_max (by linarith) hmin
    linarith

/-- Clamping does not move two numbers apart, in whichever order they are. -/
theorem abs_clamp_sub_le (s t low high : ℝ) :
    |clamp t low high - clamp s low high| ≤ |t - s| := by
  rcases le_total s t with hle | hle
  · rcases clamp_sub_mem s t low high hle with ⟨hnonneg, hbound⟩
    rw [abs_of_nonneg hnonneg]
    exact hbound.trans (le_abs_self _)
  · rcases clamp_sub_mem t s low high hle with ⟨hnonneg, hbound⟩
    rw [abs_sub_comm, abs_of_nonneg hnonneg, abs_sub_comm]
    exact hbound.trans (le_abs_self _)

end Scalar

namespace Vec

@[ext]
theorem ext_coords (a b : Vec ℝ) (hx : a.x = b.x) (hy : a.y = b.y) : a = b := by
  cases a
  cases b
  rw [mk.injEq]
  exact ⟨hx, hy⟩

-- The coordinates of every operation, so that the proofs below compute with real numbers.
section Coordinates

variable (a b : Vec ℝ) (s : ℝ)

@[simp]
theorem add_x : (a + b).x = a.x + b.x :=
  rfl

@[simp]
theorem add_y : (a + b).y = a.y + b.y :=
  rfl

@[simp]
theorem sub_x : (a - b).x = a.x - b.x :=
  rfl

@[simp]
theorem sub_y : (a - b).y = a.y - b.y :=
  rfl

@[simp]
theorem neg_x : (-a).x = -a.x :=
  rfl

@[simp]
theorem neg_y : (-a).y = -a.y :=
  rfl

@[simp]
theorem scale_x : (a.scale s).x = a.x * s :=
  rfl

@[simp]
theorem scale_y : (a.scale s).y = a.y * s :=
  rfl

@[simp]
theorem perpendicular_x : a.perpendicular.x = -a.y :=
  rfl

@[simp]
theorem perpendicular_y : a.perpendicular.y = a.x :=
  rfl

@[simp]
theorem ofAngle_x (angle : ℝ) : (ofAngle angle s).x = s * Real.cos angle :=
  rfl

@[simp]
theorem ofAngle_y (angle : ℝ) : (ofAngle angle s).y = s * Real.sin angle :=
  rfl

theorem dot_eq : a.dot b = a.x * b.x + a.y * b.y :=
  rfl

theorem length_eq : a.length = √(a.x ^ 2 + a.y ^ 2) :=
  rfl

end Coordinates

/-- The theorem of Pythagoras. -/
theorem length_sq (a : Vec ℝ) : a.length ^ 2 = a.x ^ 2 + a.y ^ 2 := by
  rw [length_eq, Real.sq_sqrt (by positivity)]

theorem length_nonneg (a : Vec ℝ) : 0 ≤ a.length := by
  rw [length_eq]
  exact Real.sqrt_nonneg _

theorem length_eq_one_iff (a : Vec ℝ) : a.length = 1 ↔ a.x ^ 2 + a.y ^ 2 = 1 := by
  rw [length_eq, Real.sqrt_eq_one]

theorem length_eq_zero_iff (a : Vec ℝ) : a.length = 0 ↔ a.x = 0 ∧ a.y = 0 := by
  constructor
  · -- Two squares with sum zero are both zero.
    intro h
    have hsq := length_sq a
    rw [h] at hsq
    constructor
    · nlinarith [sq_nonneg a.x, sq_nonneg a.y]
    · nlinarith [sq_nonneg a.x, sq_nonneg a.y]
  · rintro ⟨hx, hy⟩
    rw [length_eq, hx, hy]
    simp

/-- The zero vector is the only one without length. -/
theorem length_eq_zero_iff_eq (a : Vec ℝ) : a.length = 0 ↔ a = zero := by
  rw [length_eq_zero_iff]
  constructor
  · rintro ⟨hx, hy⟩
    ext
    · exact hx
    · exact hy
  · rintro rfl
    exact ⟨rfl, rfl⟩

/-- A vector is the one of its own angle and length. -/
theorem ofAngle_angle (a : Vec ℝ) : ofAngle a.angle a.length = a := by
  -- The polar form of a complex number, which holds at zero as well.
  have hcos := Complex.norm_mul_cos_arg ⟨a.x, a.y⟩
  have hsin := Complex.norm_mul_sin_arg ⟨a.x, a.y⟩
  rw [Complex.norm_eq_sqrt_sq_add_sq] at hcos hsin
  ext
  · exact hcos
  · exact hsin

/-- A vector of length one is its own direction. -/
theorem normalized_of_length (a : Vec ℝ) (h : a.length = 1) : a.normalized = a := by
  unfold normalized
  simp only [h]
  rw [if_neg]
  · ext
    · exact div_one a.x
    · exact div_one a.y
  · rw [Scalar.real_beq_iff]
    exact one_ne_zero

/-- Without length there is nothing to normalize. -/
theorem length_normalized_of_zero (a : Vec ℝ) (h : a.length = 0) : a.normalized.length = 0 := by
  unfold normalized
  simp only [if_pos ((Scalar.real_beq_iff _ _).mpr h)]
  rw [length_eq_zero_iff]
  exact ⟨rfl, rfl⟩

/-- With a length there is a direction, which has length one. -/
theorem length_normalized_of_ne_zero (a : Vec ℝ) (h : a.length ≠ 0) :
    a.normalized.length = 1 := by
  unfold normalized
  simp only [if_neg (Scalar.not_real_beq h)]
  rw [length_eq_one_iff]
  -- Both squares are divided by the one of the length, which is their sum.
  have hscale : (a.x / a.length) ^ 2 + (a.y / a.length) ^ 2 = 1 := by
    rw [div_pow, div_pow, ← add_div, ← length_sq, div_self (pow_ne_zero 2 h)]
  exact hscale

theorem length_normalized (a : Vec ℝ) : a.normalized.length = 0 ∨ a.normalized.length = 1 := by
  by_cases hzero : a.length = 0
  · exact Or.inl (a.length_normalized_of_zero hzero)
  · exact Or.inr (a.length_normalized_of_ne_zero hzero)

/-- Only the zero vector has no direction. -/
theorem normalized_eq_zero_iff (a : Vec ℝ) : a.normalized = zero ↔ a = zero := by
  rw [← length_eq_zero_iff_eq, ← length_eq_zero_iff_eq]
  constructor
  · intro hnone
    by_contra hlength
    rw [a.length_normalized_of_ne_zero hlength] at hnone
    exact one_ne_zero hnone
  · exact a.length_normalized_of_zero

/-- A direction that is scaled by the length is the vector again. -/
theorem scale_normalized (a : Vec ℝ) : a.normalized.scale a.length = a := by
  unfold normalized
  simp only
  by_cases hzero : a.length = 0
  · -- A vector without length is the zero vector, which has no direction to scale.
    rcases (length_eq_zero_iff a).mp hzero with ⟨hx, hy⟩
    rw [if_pos ((Scalar.real_beq_iff _ _).mpr hzero), hzero]
    ext
    · rw [scale_x, mul_zero, hx]
    · rw [scale_y, mul_zero, hy]
  · rw [if_neg (Scalar.not_real_beq hzero)]
    ext
    · exact div_mul_cancel₀ a.x hzero
    · exact div_mul_cancel₀ a.y hzero

theorem length_ofAngle (angle : ℝ) : (ofAngle angle (1 : ℝ)).length = 1 := by
  rw [length_eq_one_iff, ofAngle_x, ofAngle_y, one_mul, one_mul]
  exact Real.cos_sq_add_sin_sq angle

theorem length_perpendicular (a : Vec ℝ) : a.perpendicular.length = a.length := by
  rw [length_eq, length_eq, perpendicular_x, perpendicular_y, neg_sq, add_comm]

/-- A quarter turn is exact, although it is made of a sine and a cosine. -/
theorem rotate_quarterTurn (a : Vec ℝ) : a.rotate Scalar.quarterTurn = a.perpendicular := by
  have hcos : Scalar.cos (Scalar.quarterTurn : ℝ) = 0 := by
    rw [Scalar.quarterTurn_eq]
    exact Real.cos_pi_div_two
  have hsin : Scalar.sin (Scalar.quarterTurn : ℝ) = 1 := by
    rw [Scalar.quarterTurn_eq]
    exact Real.sin_pi_div_two
  -- What is left of the rotation is the exchange of the coordinates.
  unfold rotate
  simp only [hcos, hsin]
  ext
  · simp
  · simp

/-- Whole turns do not move the point at an angle. -/
theorem ofAngle_add_turns (angle radius : ℝ) (turns : ℤ) :
    ofAngle (angle + turns * (2 * Real.pi)) radius = ofAngle angle radius := by
  ext
  · rw [ofAngle_x, ofAngle_x, Real.cos_add_int_mul_two_pi]
  · rw [ofAngle_y, ofAngle_y, Real.sin_add_int_mul_two_pi]

/-- So an angle may be wrapped. -/
theorem ofAngle_wrapAngle (base angle radius : ℝ) :
    ofAngle (base + Scalar.wrapAngle angle) radius = ofAngle (base + angle) radius := by
  rcases Scalar.exists_wrapAngle angle with ⟨turns, hturns⟩
  rw [hturns, ← add_assoc, ofAngle_add_turns]

end Vec

end PlanarMotion
