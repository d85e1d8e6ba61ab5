import PlanarMotion.Proofs.Path.Bernstein
import Mathlib.Analysis.Calculus.Deriv.Mul
import Mathlib.Analysis.Calculus.Deriv.Add
import Mathlib.Topology.Algebra.Module.ModuleTopology

/-!
# The Hodograph Is the Derivative

The curve of derivatives of a Bezier curve is itself evaluated by interpolation, on one point less:
on the differences of neighbours, times the degree. Over the real numbers this is the derivative of
the curve by its parameter, for any number of control points.

Both evaluations are brought to the Bernstein form, where the statement is about sums of weighted
numbers. It is shown there by induction on the degree, with Pascal's rule on both sides: a sum of
one degree more is the mixture of two sums, one over the numbers and one over their right
neighbours. The mixture moves because its parts do, and because it passes from one to the other,
which is where the degree goes up by one.

A curve without points or with a single one stands still, and its hodograph has no points.

## Main definitions

* `Bezier.HasVelocityAt`: How a curve moves at a parameter.
* `Bezier.HasUnitTangentAt`: A unit vector along which it moves.

## Theorems

* `Bezier.hasDerivAt_sum_weight`: The derivative of a sum of weighted numbers.
* `Bezier.hasVelocityAt_derivative`: The hodograph is the velocity of a curve.
* `Bezier.hasUnitTangentAt_normalized`: Its direction is the unit tangent.
* `Bezier.moves_by_hodograph`: Both together, for the directions at the ends of a polyline.
-/

namespace PlanarMotion

namespace Bezier

/-- A sum of one degree more passes from the numbers to their right neighbours. -/
theorem sum_weight_mixture (degree : ℕ) (t : ℝ) (x : ℕ → ℝ) :
    ∑ i ∈ Finset.range (degree + 2), weight (degree + 1) i t * x i
      = (1 - t) * ∑ i ∈ Finset.range (degree + 1), weight degree i t * x i
        + t * ∑ i ∈ Finset.range (degree + 1), weight degree i t * x (i + 1) := by
  rw [sum_weight_succ, Finset.mul_sum, Finset.mul_sum, ← Finset.sum_add_distrib]
  refine Finset.sum_congr rfl fun i _ => ?_
  ring

/-- The derivative of a sum of weighted numbers is one of their differences, times the degree. -/
theorem hasDerivAt_sum_weight (degree : ℕ) (t : ℝ) (x : ℕ → ℝ) :
    HasDerivAt (fun u => ∑ i ∈ Finset.range (degree + 2), weight (degree + 1) i u * x i)
      (∑ i ∈ Finset.range (degree + 1), weight degree i t * ((x (i + 1) - x i) * (degree + 1)))
      t := by
  have hfar : HasDerivAt (fun u : ℝ => 1 - u) (-1) t := (hasDerivAt_id t).const_sub 1
  induction degree generalizing x with
  | zero =>
      -- Of degree one the sum is a line between two numbers.
      have hline : ∀ u, ∑ i ∈ Finset.range 2, weight 1 i u * x i = (1 - u) * x 0 + u * x 1 := by
        intro u
        simp [Finset.sum_range_succ, weight]
      simp only [Nat.zero_add, hline]
      refine ((hfar.mul_const (x 0)).add ((hasDerivAt_id t).mul_const (x 1))).congr_deriv ?_
      simp [weight]
      ring
  | succ degree ih =>
      -- Both parts move by the induction hypothesis, and the mixture passes from one to the other.
      have hparts := (hfar.mul (ih x)).add ((hasDerivAt_id t).mul (ih fun i => x (i + 1)))
      have hdifference : ∑ i ∈ Finset.range (degree + 2),
            weight (degree + 1) i t * (x (i + 1) - x i)
          = ∑ i ∈ Finset.range (degree + 2), weight (degree + 1) i t * x (i + 1)
            - ∑ i ∈ Finset.range (degree + 2), weight (degree + 1) i t * x i := by
        rw [← Finset.sum_sub_distrib]
        exact Finset.sum_congr rfl fun i _ => mul_sub _ _ _
      -- A common factor of the numbers may be taken out.
      have hscale : ∀ (d : ℕ) (y : ℕ → ℝ) (s : ℝ),
          ∑ i ∈ Finset.range (d + 1), weight d i t * (y i * s)
            = (∑ i ∈ Finset.range (d + 1), weight d i t * y i) * s := by
        intro d y s
        rw [Finset.sum_mul]
        exact Finset.sum_congr rfl fun i _ => (mul_assoc _ _ _).symm
      have hmoves := sum_weight_mixture degree t fun i => x (i + 1) - x i
      simp only [sum_weight_mixture (degree + 1) _ x]
      refine hparts.congr_deriv ?_
      rw [hscale, hscale, hscale, id_eq]
      rw [hmoves] at hdifference ⊢
      push_cast
      linear_combination -hdifference

/-- The hodograph has a point between each two neighbours. -/
theorem getD_hodograph (b : Bezier ℝ) (k : ℕ) (h : k + 1 < b.points.length) :
    b.hodograph.points.getD k Vec.zero
      = (b.points.getD (k + 1) Vec.zero - b.points.getD k Vec.zero).scale
        (b.points.length - 1 : ℕ) := by
  have hpoint : k < b.hodograph.points.length := by
    rw [hodograph, List.length_zipWith, List.length_tail]
    omega
  rw [List.getD_eq_getElem _ _ hpoint, List.getD_eq_getElem _ _ h,
    List.getD_eq_getElem _ _ (by omega)]
  simp only [hodograph, List.getElem_zipWith, List.getElem_tail]
  rfl

/-- How a curve moves at a parameter. -/
structure HasVelocityAt (b : Bezier ℝ) (v : Vec ℝ) (t : ℝ) : Prop where
  /-- In its abscissa. -/
  x : HasDerivAt (fun u => (b.evaluate u).x) v.x t
  /-- In its ordinate. -/
  y : HasDerivAt (fun u => (b.evaluate u).y) v.y t

/-- A curve that is always at the same point stands still. -/
theorem hasVelocityAt_zero (b : Bezier ℝ) (p : Vec ℝ) (t : ℝ) (h : ∀ u, b.evaluate u = p) :
    b.HasVelocityAt Vec.zero t := by
  constructor
  · simp only [h]
    exact hasDerivAt_const t p.x
  · simp only [h]
    exact hasDerivAt_const t p.y

/-- The hodograph is the velocity of a curve. -/
theorem hasVelocityAt_derivative (b : Bezier ℝ) (t : ℝ) :
    b.HasVelocityAt (b.derivative t) t := by
  rcases b with ⟨_ | ⟨p, _ | ⟨q, rest⟩⟩⟩
  · exact hasVelocityAt_zero _ Vec.zero t fun _ => rfl
  · exact hasVelocityAt_zero _ p t fun _ => rfl
  · -- From two points on there is a degree, and the hodograph has one less.
    have hpoints : (hodograph ⟨p :: q :: rest⟩ : Bezier ℝ).points.length - 1 = rest.length := by
      rw [hodograph, List.length_zipWith, List.length_tail, List.length_cons, List.length_cons]
      omega
    -- The weighted differences of the coordinates are the coordinates of the hodograph's points.
    have hdifference : ∀ i ∈ Finset.range (rest.length + 1),
        (hodograph ⟨p :: q :: rest⟩ : Bezier ℝ).points.getD i Vec.zero
          = ((p :: q :: rest).getD (i + 1) Vec.zero - (p :: q :: rest).getD i Vec.zero).scale
            ((rest.length : ℝ) + 1) := by
      intro i hi
      have hlt := Finset.mem_range.mp hi
      rw [getD_hodograph ⟨p :: q :: rest⟩ i (by simp only [List.length_cons]; omega)]
      simp only [List.length_cons, Nat.add_sub_cancel, Nat.cast_add, Nat.cast_one]
    unfold derivative
    constructor
    · simp only [evaluate_eq_bernstein, bernstein, hpoints]
      refine (hasDerivAt_sum_weight rest.length t _).congr_deriv
        (Finset.sum_congr rfl fun i hi => ?_)
      rw [hdifference i hi]
      rfl
    · simp only [evaluate_eq_bernstein, bernstein, hpoints]
      refine (hasDerivAt_sum_weight rest.length t _).congr_deriv
        (Finset.sum_congr rfl fun i hi => ?_)
      rw [hdifference i hi]
      rfl

/-- A unit vector along which a curve moves at a parameter, at some positive speed. -/
def HasUnitTangentAt (b : Bezier ℝ) (d : Vec ℝ) (t : ℝ) : Prop :=
  d.length = 1 ∧ ∃ speed, 0 < speed ∧ b.HasVelocityAt (d.scale speed) t

/-- The direction of the derivative is the unit tangent, wherever it is not zero. -/
theorem hasUnitTangentAt_normalized (b : Bezier ℝ) (t : ℝ)
    (h : (b.derivative t).normalized ≠ Vec.zero) :
    b.HasUnitTangentAt (b.derivative t).normalized t := by
  -- A direction that is not zero comes from a derivative that is not zero.
  have hmoves : (b.derivative t).length ≠ 0 := by
    rw [Ne, Vec.length_eq_zero_iff_eq, ← Vec.normalized_eq_zero_iff]
    exact h
  refine ⟨Vec.length_normalized_of_ne_zero _ hmoves, (b.derivative t).length,
    lt_of_le_of_ne (Vec.length_nonneg _) hmoves.symm, ?_⟩
  rw [Vec.scale_normalized]
  exact b.hasVelocityAt_derivative t

/-- The hodograph is the derivative. For any control points, also none or a single one, the curve
    of derivatives says at every parameter how the curve moves. So a polyline of any number of
    chords leaves and arrives with the unit tangents of its curve, unless its directions there are
    zero, which they are only where the derivative is. -/
theorem moves_by_hodograph (b : Bezier ℝ) (segments : Int) :
    let p := Polyline.ofBezier b segments
    (∀ t, b.HasVelocityAt (b.derivative t) t) ∧
    (p.startDirection ≠ Vec.zero → b.HasUnitTangentAt p.startDirection 0) ∧
    (p.endDirection ≠ Vec.zero → b.HasUnitTangentAt p.endDirection 1) ∧
    (p.startDirection = Vec.zero ↔ b.derivative 0 = Vec.zero) ∧
    (p.endDirection = Vec.zero ↔ b.derivative 1 = Vec.zero) := by
  intro p
  exact ⟨b.hasVelocityAt_derivative, b.hasUnitTangentAt_normalized 0,
    b.hasUnitTangentAt_normalized 1, Vec.normalized_eq_zero_iff _,
    Vec.normalized_eq_zero_iff _⟩

/-- A parabola leaves and arrives with its unit tangents. -/
theorem moves_by_hodograph_parabola :
    let b : Bezier ℝ := ⟨[⟨0, 0⟩, ⟨1, 1⟩, ⟨2, 0⟩]⟩
    let p := Polyline.ofBezier b 10
    (p.startDirection ≠ Vec.zero ∧ b.HasUnitTangentAt p.startDirection 0) ∧
    (p.endDirection ≠ Vec.zero ∧ b.HasUnitTangentAt p.endDirection 1) := by
  intro b p
  rcases moves_by_hodograph b 10 with ⟨-, hstart, hend, hnostart, hnoend⟩
  -- The first two points differ, and so do the last two.
  have hright : ((⟨1, 1⟩ : Vec ℝ) - ⟨0, 0⟩).scale (Scalar.ofNat 2) ≠ Vec.zero := by
    intro hzero
    have hx : ((1 : ℝ) - 0) * ((2 : ℕ) : ℝ) = 0 := congrArg Vec.x hzero
    norm_num at hx
  have hleft : ((⟨2, 0⟩ : Vec ℝ) - ⟨1, 1⟩).scale (Scalar.ofNat 2) ≠ Vec.zero := by
    intro hzero
    have hx : ((2 : ℝ) - 1) * ((2 : ℕ) : ℝ) = 0 := congrArg Vec.x hzero
    norm_num at hx
  have hleaves : p.startDirection ≠ Vec.zero := by
    rw [Ne, hnostart]
    exact fun h => hright ((evaluate_zero _ _).symm.trans h)
  have harrives : p.endDirection ≠ Vec.zero := by
    rw [Ne, hnoend]
    exact fun h => hleft ((evaluate_one _ _).symm.trans h)
  exact ⟨⟨hleaves, hstart hleaves⟩, harrives, hend harrives⟩

end Bezier

end PlanarMotion
