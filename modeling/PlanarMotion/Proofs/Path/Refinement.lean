import PlanarMotion.Proofs.Path.Hodograph
import PlanarMotion.Proofs.Path.Ends
import Mathlib.Analysis.Calculus.Deriv.MeanValue

/-!
# The Length of a Polyline

A polyline through points of a Bezier curve is at least as long as the way from end to end, grows
when its chords are divided, and is never longer than the way along the control points.

The lower bounds are the triangle inequality, once for the whole polyline and once for each chord
that is divided: the vertices of the coarse polyline are vertices of the fine one, since equal
fractions are equal parameters.

For the upper bound no subdivision is needed. With each control point goes the way along the
control points up to it, and these numbers are weighted as the points are: `mileage` is a curve
of one coordinate, from zero to the whole way. Between two parameters the mileage grows by at least
the distance of the two places. For in the direction from one place to the other, each control
point advances over the one before by at most their distance, and a weighted sum of numbers that do
not go down does not go down either, because its derivative is a weighted sum of their differences.
Adding up the chords, the mileage telescopes.

## Main definitions

* `Bezier.controlLength`, `Bezier.controlLengthTo`: The way along the control points.
* `Bezier.mileage`: This way, weighted as the points are.
* `Bezier.vertex`: A vertex of a polyline.

## Theorems

* `Bezier.monotoneOn_sum_weight`: Weighted sums keep the order of the numbers.
* `Bezier.length_sub_le_mileage`: A chord is covered by the mileage between its ends.
* `Vec.length_sub_le_sum`: The triangle inequality along a row of points.
* `Polyline.length_ofBezier`: The length of a polyline, chord by chord.
* `Polyline.length_sub_le_ofBezier`, `Polyline.length_ofBezier_le`: Its bounds.
* `Polyline.length_le_length_mul`: It grows when chords are divided.
* `Polyline.length_refined`: All together, for any control points.
-/

namespace PlanarMotion

/-- What is said of the neighbours in a list, index by index. -/
theorem zipWith_tail_eq_map_range {α β : Type} (f : α → α → β) (xs : List α) (d : α) :
    List.zipWith f xs xs.tail
      = (List.range (xs.length - 1)).map fun i => f (xs.getD i d) (xs.getD (i + 1) d) := by
  refine List.ext_getElem ?_ fun i hleft hright => ?_
  · rw [List.length_zipWith, List.length_tail, List.length_map, List.length_range]
    omega
  · rw [List.length_map, List.length_range] at hright
    rw [List.getElem_zipWith, List.getElem_tail, List.getElem_map, List.getElem_range,
      List.getD_eq_getElem _ _ (by omega), List.getD_eq_getElem _ _ (by omega)]

theorem sum_map_range (f : ℕ → ℝ) (n : ℕ) :
    ((List.range n).map f).sum = ∑ i ∈ Finset.range n, f i :=
  rfl

namespace Vec

/-- The way from the first of a row of points to the last one is not longer than along the row. -/
theorem length_sub_le_sum (place : ℕ → Vec ℝ) (n : ℕ) :
    (place n - place 0).length ≤ ∑ i ∈ Finset.range n, (place (i + 1) - place i).length := by
  induction n with
  | zero => rw [length_sub_self, Finset.sum_range_zero]
  | succ n ih =>
      rw [Finset.sum_range_succ]
      have hway := length_sub_le (place 0) (place n) (place (n + 1))
      linarith

/-- No vector advances farther in a direction than it is long. -/
theorem dot_le_length (a b : Vec ℝ) : a.dot b ≤ a.length * b.length := by
  have hsquares : (a.dot b) ^ 2 ≤ (a.length * b.length) ^ 2 := by
    rw [mul_pow, length_sq, length_sq, dot_eq]
    linarith [sq_nonneg (a.x * b.y - a.y * b.x)]
  exact le_of_sq_le_sq hsquares (mul_nonneg a.length_nonneg b.length_nonneg)

end Vec

namespace Bezier

theorem weight_nonneg (degree index : ℕ) (t : ℝ) (hlow : 0 ≤ t) (hhigh : t ≤ 1) :
    0 ≤ weight degree index t := by
  have hfar := sub_nonneg.mpr hhigh
  unfold weight
  positivity

/-- Weighted sums of numbers that do not go down do not go down. -/
theorem monotoneOn_sum_weight (degree : ℕ) (x : ℕ → ℝ) (h : ∀ i < degree, x i ≤ x (i + 1)) :
    MonotoneOn (fun t => ∑ i ∈ Finset.range (degree + 1), weight degree i t * x i)
      (Set.Icc 0 1) := by
  cases degree with
  | zero =>
      intro s _ t _ _
      simp [weight]
  | succ degree =>
      -- The slope is the weighted sum of the steps between the numbers, and none of these goes
      -- down.
      refine monotoneOn_of_deriv_nonneg (convex_Icc 0 1)
        (fun t _ => (hasDerivAt_sum_weight degree t x).continuousAt.continuousWithinAt)
        (fun t _ => (hasDerivAt_sum_weight degree t x).differentiableAt.differentiableWithinAt)
        fun t ht => ?_
      rw [interior_Icc] at ht
      rw [(hasDerivAt_sum_weight degree t x).deriv]
      refine Finset.sum_nonneg fun i hi => ?_
      have hup := sub_nonneg.mpr (h i (Finset.mem_range.mp hi))
      have hweight := weight_nonneg degree i t ht.1.le ht.2.le
      positivity

/-- The way along the control points up to the one at an index. -/
noncomputable def controlLengthTo (b : Bezier ℝ) (index : ℕ) : ℝ :=
  ∑ i ∈ Finset.range index, (b.points.getD (i + 1) Vec.zero - b.points.getD i Vec.zero).length

/-- The way along all control points. -/
noncomputable def controlLength (b : Bezier ℝ) : ℝ :=
  (List.zipWith (fun p q => (q - p).length) b.points b.points.tail).sum

theorem controlLengthTo_last (b : Bezier ℝ) :
    b.controlLengthTo (b.points.length - 1) = b.controlLength := by
  rw [controlLength, zipWith_tail_eq_map_range _ _ Vec.zero, sum_map_range]
  rfl

/-- The way along the control points, weighted as the points are. -/
noncomputable def mileage (b : Bezier ℝ) (t : ℝ) : ℝ :=
  ∑ i ∈ Finset.range (b.points.length - 1 + 1),
    weight (b.points.length - 1) i t * b.controlLengthTo i

theorem mileage_zero (b : Bezier ℝ) : b.mileage 0 = 0 := by
  rw [mileage, sum_weight_zero, controlLengthTo, Finset.sum_range_zero]

theorem mileage_one (b : Bezier ℝ) : b.mileage 1 = b.controlLength := by
  rw [mileage, sum_weight_one, controlLengthTo_last]

/-- In any direction a curve advances by at most the mileage. -/
theorem dot_sub_le_mileage (b : Bezier ℝ) (h : b.points ≠ []) (v : Vec ℝ) (s t : ℝ) (hs : 0 ≤ s)
    (hst : s ≤ t) (ht : t ≤ 1) :
    v.dot (b.evaluate t - b.evaluate s) ≤ v.length * (b.mileage t - b.mileage s) := by
  have hmix : ∀ (u : ℝ) (p q : Vec ℝ), v.dot (p.lerp q u) = (1 - u) * v.dot p + u * v.dot q := by
    intro u p q
    simp only [Vec.dot_eq, Vec.lerp, Scalar.lerp]
    ring
  -- Each control point advances by at most its distance from the one before.
  have hmono := monotoneOn_sum_weight (b.points.length - 1)
    (fun i => v.length * b.controlLengthTo i - v.dot (b.points.getD i Vec.zero)) (by
      intro i _
      have hstep := Vec.dot_le_length v
        (b.points.getD (i + 1) Vec.zero - b.points.getD i Vec.zero)
      rw [controlLengthTo, controlLengthTo, Finset.sum_range_succ]
      simp only [Vec.dot_eq, Vec.sub_x, Vec.sub_y] at hstep ⊢
      linarith)
  -- So the mileage less the advance is a weighted sum of numbers that do not go down.
  have hsum : ∀ u, ∑ i ∈ Finset.range (b.points.length - 1 + 1), weight (b.points.length - 1) i u
        * (v.length * b.controlLengthTo i - v.dot (b.points.getD i Vec.zero))
      = v.length * b.mileage u - v.dot (b.evaluate u) := by
    intro u
    rw [coordinate_evaluate u v.dot (hmix u) b h, mileage, Finset.mul_sum,
      ← Finset.sum_sub_distrib]
    refine Finset.sum_congr rfl fun i _ => ?_
    ring
  have hle := hmono ⟨hs, hst.trans ht⟩ ⟨hs.trans hst, ht⟩ hst
  simp only [hsum] at hle
  simp only [Vec.dot_eq, Vec.sub_x, Vec.sub_y] at hle ⊢
  linarith

/-- A chord is not longer than the mileage between its ends. -/
theorem length_sub_le_mileage (b : Bezier ℝ) (h : b.points ≠ []) (s t : ℝ) (hs : 0 ≤ s)
    (hst : s ≤ t) (ht : t ≤ 1) :
    (b.evaluate t - b.evaluate s).length ≤ b.mileage t - b.mileage s := by
  -- The direction that shows it is the one of the chord; without a chord any direction will do.
  by_cases hchord : (b.evaluate t - b.evaluate s).length = 0
  · have hany := b.dot_sub_le_mileage h Vec.unitX s t hs hst ht
    have hzero := (Vec.length_eq_zero_iff _).mp hchord
    have hunit : (Vec.unitX : Vec ℝ).length = 1 := by
      rw [Vec.length_eq_one_iff]
      norm_num [Vec.unitX]
    rw [Vec.dot_eq, hzero.1, hzero.2, hunit] at hany
    rw [hchord]
    linarith
  · have hpos : 0 < (b.evaluate t - b.evaluate s).length :=
      lt_of_le_of_ne (Vec.length_nonneg _) (Ne.symm hchord)
    have halong := b.dot_sub_le_mileage h (b.evaluate t - b.evaluate s) s t hs hst ht
    have hsquare : (b.evaluate t - b.evaluate s).dot (b.evaluate t - b.evaluate s)
        = (b.evaluate t - b.evaluate s).length * (b.evaluate t - b.evaluate s).length := by
      rw [← pow_two, Vec.length_sq, Vec.dot_eq]
      ring
    rw [hsquare] at halong
    exact le_of_mul_le_mul_left halong hpos

/-- The vertex at an index of a polyline with a number of chords. -/
noncomputable def vertex (b : Bezier ℝ) (segments index : ℕ) : Vec ℝ :=
  b.evaluate (index / segments)

end Bezier

namespace Polyline

open Bezier

theorem vertices_ofBezier (b : Bezier ℝ) (n : ℕ) (hn : 0 < n) :
    (ofBezier b n).vertices = (List.range (n + 1)).map (b.vertex n) := by
  have hsegments : max 1 (n : Int).toNat = n := by omega
  have hsamples : (ofBezier b n).vertices = b.samples (max 1 (n : Int).toNat) := rfl
  rw [hsamples, hsegments]
  rfl

/-- The length of a polyline, chord by chord. -/
theorem length_ofBezier (b : Bezier ℝ) (n : ℕ) (hn : 0 < n) :
    (ofBezier b n).curve.length
      = ∑ i ∈ Finset.range n, (b.vertex n (i + 1) - b.vertex n i).length := by
  have hvertices := vertices_ofBezier b n hn
  have hvertex : ∀ i, i ≤ n → (ofBezier b n).vertices.getD i Vec.zero = b.vertex n i := by
    intro i hi
    rw [hvertices, List.getD_eq_getElem _ _ (by rw [List.length_map, List.length_range]; omega),
      List.getElem_map, List.getElem_range]
  have hcount : (ofBezier b n).vertices.length - 1 = n := by
    rw [hvertices, List.length_map, List.length_range, Nat.add_sub_cancel]
  have hlength : (ofBezier b n).curve.length = (ofBezier b n).chain.length := rfl
  rw [hlength, Chain.length_eq_sum, chain, chords, zipWith_tail_eq_map_range _ _ Vec.zero, hcount,
    List.map_map, List.map_map, sum_map_range]
  refine Finset.sum_congr rfl fun i hi => ?_
  have hlt := Finset.mem_range.mp hi
  rw [← hvertex i hlt.le, ← hvertex (i + 1) hlt]
  rfl

/-- A polyline is at least as long as the way from one end of its curve to the other. -/
theorem length_sub_le_ofBezier (b : Bezier ℝ) (n : ℕ) (hn : 0 < n) :
    (b.evaluate 1 - b.evaluate 0).length ≤ (ofBezier b n).curve.length := by
  have hway := Vec.length_sub_le_sum (b.vertex n) n
  have hlast : b.vertex n n = b.evaluate 1 := by
    rw [vertex, div_self (Nat.cast_ne_zero.mpr hn.ne')]
  have hfirst : b.vertex n 0 = b.evaluate 0 := by
    rw [vertex, Nat.cast_zero, zero_div]
  rw [hlast, hfirst] at hway
  rw [length_ofBezier b n hn]
  exact hway

/-- A row of sums is summed up in blocks. -/
theorem sum_range_blocks (f : ℕ → ℝ) (n k : ℕ) : ∑ i ∈ Finset.range (n * k), f i
    = ∑ i ∈ Finset.range n, ∑ j ∈ Finset.range k, f (i * k + j) := by
  induction n with
  | zero => rw [Nat.zero_mul, Finset.sum_range_zero, Finset.sum_range_zero]
  | succ n ih => rw [Nat.succ_mul, Finset.sum_range_add, ih, Finset.sum_range_succ]

/-- Dividing each chord into as many others does not make a polyline shorter. -/
theorem length_le_length_mul (b : Bezier ℝ) (n k : ℕ) (hn : 0 < n) (hk : 0 < k) :
    (ofBezier b n).curve.length ≤ (ofBezier b (n * k : ℕ)).curve.length := by
  -- The coarse vertices are fine ones, since equal fractions are equal parameters.
  have hvertex : ∀ i, b.vertex n i = b.vertex (n * k) (i * k) := by
    intro i
    have hfraction : ((i * k : ℕ) : ℝ) / ((n * k : ℕ) : ℝ) = i / n := by
      rw [Nat.cast_mul, Nat.cast_mul, mul_div_mul_right _ _ (Nat.cast_ne_zero.mpr hk.ne')]
    rw [vertex, vertex, hfraction]
  rw [length_ofBezier b n hn, length_ofBezier b (n * k) (Nat.mul_pos hn hk), sum_range_blocks]
  -- Block by block, a coarse chord is a way that the fine ones go round.
  refine Finset.sum_le_sum fun i _ => ?_
  have hway := Vec.length_sub_le_sum (fun j => b.vertex (n * k) (i * k + j)) k
  rw [hvertex (i + 1), hvertex i, Nat.succ_mul]
  exact hway

/-- No polyline is longer than the way along the control points. -/
theorem length_ofBezier_le (b : Bezier ℝ) (h : b.points ≠ []) (n : ℕ) (hn : 0 < n) :
    (ofBezier b n).curve.length ≤ b.controlLength := by
  have hcast : (0 : ℝ) < n := Nat.cast_pos.mpr hn
  have hchord : ∀ i ∈ Finset.range n, (b.vertex n (i + 1) - b.vertex n i).length
      ≤ b.mileage ((i + 1 : ℕ) / n) - b.mileage (i / n) := by
    intro i hi
    have hlt : ((i + 1 : ℕ) : ℝ) ≤ n := Nat.cast_le.mpr (Finset.mem_range.mp hi)
    refine b.length_sub_le_mileage h _ _ (by positivity) ?_ ((div_le_one hcast).mpr hlt)
    exact div_le_div_of_nonneg_right (Nat.cast_le.mpr i.le_succ) hcast.le
  rw [length_ofBezier b n hn]
  -- Chord by chord the mileage telescopes to the whole way.
  calc ∑ i ∈ Finset.range n, (b.vertex n (i + 1) - b.vertex n i).length
      ≤ ∑ i ∈ Finset.range n, (b.mileage ((i + 1 : ℕ) / n) - b.mileage (i / n)) :=
        Finset.sum_le_sum hchord
    _ = b.mileage (n / n) - b.mileage ((0 : ℕ) / n) :=
        Finset.sum_range_sub (fun i : ℕ => b.mileage (i / n)) n
    _ = b.controlLength := by
        rw [div_self hcast.ne', Nat.cast_zero, zero_div, mileage_zero, mileage_one, sub_zero]

/-- Polylines grow with refinement, within their bounds. A polyline through a Bezier curve is at
    least as long as the way from the first control point to the last, a multiple of its chords
    makes it no shorter, and no number of chords makes it longer than the way along the control
    points. -/
theorem length_refined (first : Vec ℝ) (rest : List (Vec ℝ)) (n k : Int) (hn : 1 ≤ n)
    (hk : 1 ≤ k) :
    let b : Bezier ℝ := ⟨first :: rest⟩
    let last := (first :: rest).getLast (List.cons_ne_nil _ _)
    (last - first).length ≤ (ofBezier b n).curve.length ∧
    (ofBezier b n).curve.length ≤ (ofBezier b (k * n)).curve.length ∧
    (ofBezier b (k * n)).curve.length
      ≤ (List.zipWith (fun p q => (q - p).length) (first :: rest) rest).sum := by
  intro b last
  obtain ⟨m, rfl⟩ := Int.eq_ofNat_of_zero_le (show 0 ≤ n by omega)
  obtain ⟨l, rfl⟩ := Int.eq_ofNat_of_zero_le (show 0 ≤ k by omega)
  have hm : 0 < m := by omega
  have hl : 0 < l := by omega
  have hproduct : (l * m : Int) = ((m * l : ℕ) : Int) := by
    rw [Nat.cast_mul, Int.mul_comm]
  have hends := length_sub_le_ofBezier b m hm
  rw [evaluate_one, evaluate_zero] at hends
  rw [hproduct]
  exact ⟨hends, length_le_length_mul b m l hm hl,
    length_ofBezier_le b (List.cons_ne_nil _ _) (m * l) (Nat.mul_pos hm hl)⟩

/-- A parabola with two chords and with six. -/
theorem length_refined_parabola :
    let b : Bezier ℝ := ⟨[⟨0, 0⟩, ⟨1, 1⟩, ⟨2, 0⟩]⟩
    (1 : Int) ≤ 2 ∧ (1 : Int) ≤ 3 ∧
    ((⟨2, 0⟩ : Vec ℝ) - ⟨0, 0⟩).length ≤ (ofBezier b 2).curve.length ∧
    (ofBezier b 2).curve.length ≤ (ofBezier b (3 * 2)).curve.length ∧
    (ofBezier b (3 * 2)).curve.length ≤ (List.zipWith (fun p q => (q - p).length)
      b.points b.points.tail).sum :=
  ⟨by decide, by decide, length_refined ⟨0, 0⟩ [⟨1, 1⟩, ⟨2, 0⟩] 2 3 (by decide) (by decide)⟩

end Polyline

end PlanarMotion
