import PlanarMotion.Path.Bezier
import PlanarMotion.Proofs.Plane.Reals
import Mathlib.Data.List.GetD
import Mathlib.Data.Nat.Choose.Sum

/-!
# The Bernstein Form

A Bezier curve is evaluated by rounds of interpolation, each of which leaves one point less. The
Bernstein form says at once what the rounds arrive at: every control point counts with a weight,
and the weights are the terms of a power of `(1 - t) + t`. Over the real numbers both are the same
curve, for any number of points and any parameter.

The rounds are followed from the end. What `rounds` of them leave at a place is a sum over the
points from there on, and one more round in front replaces each of these points by a mixture of
itself and its right neighbour. Collecting what each point gets is Pascal's rule.

Interpolation treats both coordinates alike, so the induction is done once, for any coordinate
that mixes as they do.

## Main definitions

* `Bezier.weight`: How much a control point counts.
* `Bezier.bernstein`: The point at a parameter, in the Bernstein form.

## Theorems

* `Bezier.sum_weight_succ`: One round more, by Pascal's rule.
* `Bezier.coordinate_collapse`: What the rounds leave at a place.
* `Bezier.evaluate_eq_bernstein`: The scheme arrives at the Bernstein form.
* `Bezier.evaluate_zero`, `Bezier.evaluate_one`: A curve goes from its first point to its last.
* `Bezier.evaluate_bernstein`: The Bernstein form, coordinate by coordinate.
-/

namespace PlanarMotion

namespace Bezier

/-- How much the control point at an index counts at a parameter. -/
noncomputable def weight (degree index : ℕ) (t : ℝ) : ℝ :=
  degree.choose index * (1 - t) ^ (degree - index) * t ^ index

/-- The point at a parameter as the sum of the control points, each times its weight. -/
noncomputable def bernstein (b : Bezier ℝ) (t : ℝ) : Vec ℝ :=
  let degree := b.points.length - 1
  ⟨∑ i ∈ Finset.range (degree + 1), weight degree i t * (b.points.getD i Vec.zero).x,
    ∑ i ∈ Finset.range (degree + 1), weight degree i t * (b.points.getD i Vec.zero).y⟩

/-- A round puts a point between each two neighbours. -/
theorem getD_interpolate (t : ℝ) (points : List (Vec ℝ)) (k : ℕ) (h : k + 1 < points.length) :
    (interpolate t points).getD k Vec.zero
      = (points.getD k Vec.zero).lerp (points.getD (k + 1) Vec.zero) t := by
  have hround : k < (interpolate t points).length := by
    rw [length_interpolate]
    omega
  rw [List.getD_eq_getElem _ _ hround, List.getD_eq_getElem _ _ (by omega),
    List.getD_eq_getElem _ _ h]
  simp only [interpolate, List.getElem_zipWith, List.getElem_tail]

/-- One degree more, by Pascal's rule: each number is mixed with its right neighbour. -/
theorem sum_weight_succ (degree : ℕ) (t : ℝ) (x : ℕ → ℝ) :
    ∑ i ∈ Finset.range (degree + 2), weight (degree + 1) i t * x i
      = ∑ i ∈ Finset.range (degree + 1), weight degree i t * ((1 - t) * x i + t * x (i + 1)) := by
  have hterm : ∀ i, weight (degree + 1) i t * x i
      = (degree + 1).choose i * ((1 - t) ^ (degree + 1 - i) * t ^ i * x i) := by
    intro i
    rw [weight]
    ring
  have hpascal := Finset.sum_choose_succ_mul (fun i j => (1 - t) ^ j * t ^ i * x i) degree
  simp only [hterm, hpascal, ← Finset.sum_add_distrib]
  refine Finset.sum_congr rfl fun i hi => ?_
  -- In the sum of the lower degree the power is one more than there.
  have hpower : degree + 1 - i = degree - i + 1 := by
    have hle := Finset.mem_range.mp hi
    omega
  rw [weight, hpower]
  ring

section Coordinates

variable (t : ℝ) (coordinate : Vec ℝ → ℝ)
    (hmix : ∀ p q : Vec ℝ, coordinate (p.lerp q t) = (1 - t) * coordinate p + t * coordinate q)

include hmix

/-- What the rounds leave at a place is made of the points from there on. -/
theorem coordinate_collapse (rounds : ℕ) (points : List (Vec ℝ)) (k : ℕ)
    (h : rounds + k < points.length) :
    coordinate ((collapse t rounds points).getD k Vec.zero)
      = ∑ i ∈ Finset.range (rounds + 1),
        weight rounds i t * coordinate (points.getD (i + k) Vec.zero) := by
  induction rounds generalizing points with
  | zero => simp [collapse, weight]
  | succ rounds ih =>
      have hround : rounds + k < (interpolate t points).length := by
        rw [length_interpolate]
        omega
      rw [collapse, ih (interpolate t points) hround,
        sum_weight_succ rounds t fun i => coordinate (points.getD (i + k) Vec.zero)]
      -- The first round mixes neighbours, and the others weigh what it leaves.
      refine Finset.sum_congr rfl fun i hi => ?_
      have hle := Finset.mem_range.mp hi
      rw [getD_interpolate t points (i + k) (by omega), hmix, Nat.add_right_comm i k 1]

/-- A coordinate of a curve is the weighted sum of the coordinates of its points. -/
theorem coordinate_evaluate (b : Bezier ℝ) (h : b.points ≠ []) :
    coordinate (b.evaluate t) = ∑ i ∈ Finset.range (b.points.length - 1 + 1),
      weight (b.points.length - 1) i t * coordinate (b.points.getD i Vec.zero) := by
  -- With as many rounds as the degree one place is left, which is the first.
  have hsome := List.length_pos_iff.mpr h
  have hleft := coordinate_collapse t coordinate hmix (b.points.length - 1) b.points 0 (by omega)
  rw [b.collapse_all t h] at hleft
  exact hleft

end Coordinates

/-- The scheme arrives at the Bernstein form, also if there are no points. -/
theorem evaluate_eq_bernstein (b : Bezier ℝ) (t : ℝ) : b.evaluate t = b.bernstein t := by
  have hmix : ∀ x y : ℝ, Scalar.lerp x y t = (1 - t) * x + t * y := by
    intro x y
    rw [Scalar.lerp]
    ring
  -- Without points both are the origin.
  by_cases hempty : b.points = []
  · ext
    · simp [bernstein, evaluate, collapse, hempty, Vec.zero]
    · simp [bernstein, evaluate, collapse, hempty, Vec.zero]
  · ext
    · exact coordinate_evaluate t Vec.x (fun p q => hmix p.x q.x) b hempty
    · exact coordinate_evaluate t Vec.y (fun p q => hmix p.y q.y) b hempty

/-- At zero only the first point counts. -/
theorem sum_weight_zero (degree : ℕ) (x : ℕ → ℝ) :
    ∑ i ∈ Finset.range (degree + 1), weight degree i 0 * x i = x 0 := by
  rw [Finset.sum_eq_single_of_mem 0 (Finset.mem_range.mpr degree.succ_pos)]
  · simp [weight]
  · intro i _ hne
    simp [weight, hne]

/-- At one only the last point counts. -/
theorem sum_weight_one (degree : ℕ) (x : ℕ → ℝ) :
    ∑ i ∈ Finset.range (degree + 1), weight degree i 1 * x i = x degree := by
  rw [Finset.sum_eq_single_of_mem degree (Finset.mem_range.mpr degree.lt_succ_self)]
  · simp [weight]
  · intro i hi hne
    -- All the others have a power of zero in front.
    have hpower : degree - i ≠ 0 := by
      have hlt := Finset.mem_range.mp hi
      omega
    simp [weight, hpower]

/-- A curve starts at its first point. -/
theorem evaluate_zero (p : Vec ℝ) (ps : List (Vec ℝ)) : (Bezier.mk (p :: ps)).evaluate 0 = p := by
  rw [evaluate_eq_bernstein]
  ext
  · exact sum_weight_zero ps.length _
  · exact sum_weight_zero ps.length _

/-- A curve ends at its last point. -/
theorem evaluate_one (p : Vec ℝ) (ps : List (Vec ℝ)) :
    (Bezier.mk (p :: ps)).evaluate 1 = (p :: ps).getLast (List.cons_ne_nil _ _) := by
  have hlast : (p :: ps).getLast (List.cons_ne_nil _ _) = (p :: ps).getD ps.length Vec.zero := by
    rw [List.getLast_eq_getElem, List.getD_eq_getElem]
    rfl
  rw [evaluate_eq_bernstein, hlast]
  ext
  · exact sum_weight_one ps.length _
  · exact sum_weight_one ps.length _

/-- De Casteljau's scheme evaluates the Bernstein form. For any number of control points and at any
    parameter, inside the unit interval or not, the curve is where the sum of all control points is,
    each times its weight. So at zero it is at the first of them, and at one at the last. -/
theorem evaluate_bernstein (first : Vec ℝ) (rest : List (Vec ℝ)) :
    let b : Bezier ℝ := ⟨first :: rest⟩
    let n := rest.length
    (∀ t,
      (b.evaluate t).x = ∑ i ∈ Finset.range (n + 1),
        n.choose i * (1 - t) ^ (n - i) * t ^ i * (b.points.getD i Vec.zero).x ∧
      (b.evaluate t).y = ∑ i ∈ Finset.range (n + 1),
        n.choose i * (1 - t) ^ (n - i) * t ^ i * (b.points.getD i Vec.zero).y) ∧
    b.evaluate 0 = first ∧ b.evaluate 1 = (first :: rest).getLast (List.cons_ne_nil _ _) := by
  intro b n
  refine ⟨fun t => ?_, evaluate_zero first rest, evaluate_one first rest⟩
  rw [b.evaluate_eq_bernstein t]
  exact ⟨rfl, rfl⟩

end Bezier

end PlanarMotion
