import PlanarMotion.Proofs.Path.Ends
import PlanarMotion.Proofs.Plane.Rigid

/-!
# Paths Under Rigid Motions

A curve is moved by moving its poses; distances along it stay what they are. Here every kind of
piece is shown to be such a curve when the points that it is made of are moved. For lines and for
the polylines of Bezier curves this is so because nothing in them names a coordinate. A chain asks
its children, and which of them it asks is told from lengths alone.

For arcs it is a condition on angles. A circle is known by its center and radius, but the first and
the last angle have to be those of the old arc with the rotation added, up to whole turns, the same
number of turns for both. The turns are seen by no sine and cancel in the sweep.

## Main definitions

* `RigidMotion.curve`: A curve after a rigid motion.
* `RigidMotion.line`, `RigidMotion.bezier`: Lines and Bezier curves after a rigid motion.
* `Arc.IsMoved`: An arc is another one after a rigid motion.

## Theorems

* `LineSegment.curve_moved`, `Arc.IsMoved.curve_moved`, `Polyline.curve_moved`: Pieces made of moved
  points.
* `Chain.curve_moved`: Moved pieces end to end.
* `Bezier.evaluate_moved`, `Bezier.derivative_moved`: A curve and its derivative.
-/

namespace PlanarMotion

/-- Curves with the same lengths, poses and answers are the same. -/
theorem Curve.ext_fields (c d : Curve ℝ) (hlength : c.length = d.length) (hpose : c.pose = d.pose)
    (hdefined : c.defined = d.defined) : c = d := by
  cases c
  cases d
  rw [mk.injEq]
  exact ⟨hlength, hpose, hdefined⟩

theorem Pose.ext_fields (p q : Pose ℝ) (hposition : p.position = q.position)
    (hdirection : p.direction = q.direction) : p = q := by
  cases p
  cases q
  rw [mk.injEq]
  exact ⟨hposition, hdirection⟩

/-- What is made of neighbours is moved along if it is so for any two. -/
theorem map_zipWith_tail {β γ δ ε : Type} (f : β → γ) (g : β → β → δ) (g' : γ → γ → ε)
    (move : δ → ε) (hmove : ∀ p q, g' (f p) (f q) = move (g p q)) (ps : List β) :
    List.zipWith g' (ps.map f) (ps.map f).tail = (List.zipWith g ps ps.tail).map move := by
  simp only [← List.map_tail, List.zipWith_map, List.map_zipWith, hmove]

variable (r : RigidMotion)

/-- A curve after a rigid motion. -/
noncomputable def RigidMotion.curve (c : Curve ℝ) : Curve ℝ where
  length := c.length
  pose t := r.pose (c.pose t)
  defined := c.defined

/-- A line after a rigid motion. -/
noncomputable def RigidMotion.line (s : LineSegment ℝ) : LineSegment ℝ :=
  ⟨r.point s.start, r.point s.stop⟩

/-- A Bezier curve after a rigid motion. -/
noncomputable def RigidMotion.bezier (b : Bezier ℝ) : Bezier ℝ :=
  ⟨b.points.map r.point⟩

/-- The curve of a moved line is the moved curve. -/
theorem LineSegment.curve_moved (s : LineSegment ℝ) : (r.line s).curve = r.curve s.curve := by
  -- The translation cancels in the difference of two points.
  have hway : (r.line s).stop - (r.line s).start = r.direction (s.stop - s.start) :=
    r.point_sub s.stop s.start
  have hdirection : (r.line s).direction = r.direction s.direction := by
    rw [direction, hway, r.direction_normalized, direction]
  have hlength : (r.line s).length = s.length := by
    rw [length, hway, r.length_direction, length]
  refine Curve.ext_fields _ _ hlength (funext fun t => Pose.ext_fields _ _ ?_ hdirection) rfl
  have hplace : (r.line s).start + (r.line s).direction.scale
      (Scalar.clamp t 0 (r.line s).length) = r.point (s.start + s.direction.scale
        (Scalar.clamp t 0 s.length)) := by
    rw [hdirection, hlength, r.point_add, r.direction_scale]
    rfl
  exact hplace

namespace Arc

/-- An arc is another one after a rigid motion: its angles are turned, up to whole turns. -/
structure IsMoved (a a' : Arc ℝ) : Prop where
  /-- The center is moved. -/
  center : a'.center = r.point a.center
  /-- The radius stays. -/
  radius : a'.radius = a.radius
  /-- Both angles are turned by the rotation and the same number of whole turns. -/
  angles : ∃ turns : ℤ, a'.startAngle = a.startAngle + (r.angle + turns * (2 * Real.pi)) ∧
    a'.endAngle = a.endAngle + (r.angle + turns * (2 * Real.pi))

namespace IsMoved

variable {r} {a a' : Arc ℝ} (h : a.IsMoved r a')

include h

theorem sweep : a'.endAngle - a'.startAngle = a.endAngle - a.startAngle := by
  rcases h.angles with ⟨turns, hstart, hend⟩
  rw [hstart, hend, add_sub_add_right_eq_sub]

theorem length : a'.length = a.length := by
  rw [a'.length_eq, a.length_eq, h.sweep, h.radius]

theorem lt_iff : a'.startAngle < a'.endAngle ↔ a.startAngle < a.endAngle := by
  rw [← sub_pos, h.sweep, sub_pos]

/-- After the same distance an arc is at the same part of the same sweep. -/
theorem exists_angleAt : ∃ turns : ℤ, ∀ t,
    a'.angleAt t = a.angleAt t + r.angle + turns * (2 * Real.pi) := by
  rcases h.angles with ⟨turns, hstart, -⟩
  refine ⟨turns, fun t => ?_⟩
  by_cases hzero : a.length = 0
  · rw [a'.angleAt_of_zero (h.length.trans hzero), a.angleAt_of_zero hzero, hstart, add_assoc]
  · rw [a'.angleAt_of_ne_zero (h.length.trans_ne hzero), a.angleAt_of_ne_zero hzero, h.length,
      h.sweep, hstart]
    ring

/-- At an angle that is turned along it has the moved pose. -/
theorem poseAtAngle (angle : ℝ) (turns : ℤ) :
    a'.poseAtAngle (angle + r.angle + turns * (2 * Real.pi)) = r.pose (a.poseAtAngle angle) := by
  refine Pose.ext_fields _ _ ?_ ?_
  · have hplace : a'.center + Vec.ofAngle (angle + r.angle + turns * (2 * Real.pi)) a'.radius
        = r.point (a.center + Vec.ofAngle angle a.radius) := by
      rw [Vec.ofAngle_add_turns, h.center, h.radius, r.point_add, r.direction_ofAngle]
    exact hplace
  -- The direction is told from the angle and the side, which is the same for both.
  · rw [a'.direction_poseAtAngle, ← r.direction_ofAngle_add]
    simp only [h.lt_iff]
    rw [← a.direction_poseAtAngle]
    rfl

/-- The vectors at the last angle, and at angles told from it, are turned. -/
theorem ofAngle_end (extra radius : ℝ) : Vec.ofAngle (a'.endAngle + extra) radius
    = r.direction (Vec.ofAngle (a.endAngle + extra) radius) := by
  rcases h.angles with ⟨turns, -, hend⟩
  rw [r.direction_ofAngle_add a.endAngle extra radius turns, hend,
    ← add_assoc a.endAngle r.angle]

/-- The curve of a moved arc is the moved curve. -/
theorem curve_moved : a'.curve = r.curve a.curve := by
  rcases h.exists_angleAt with ⟨turns, hangle⟩
  refine Curve.ext_fields _ _ h.length (funext fun t => ?_) rfl
  have hpose : a'.poseAtAngle (a'.angleAt t) = r.pose (a.poseAtAngle (a.angleAt t)) := by
    rw [hangle t, h.poseAtAngle]
  exact hpose

end IsMoved

end Arc

namespace Chain

/-- Which child answers is told from lengths, so children may be exchanged for others of the same
    lengths. -/
theorem answererAmong?_map (f : Curve ℝ → Curve ℝ) (hf : ∀ c, (f c).length = c.length)
    (children : List (Curve ℝ)) (marks : Array ℝ) (length t : ℝ) :
    answererAmong? (children.map f).toArray marks length t
      = (answererAmong? children.toArray marks length t).map fun answer =>
        (f answer.1, answer.2) := by
  unfold answererAmong?
  simp only [List.getElem?_toArray, List.getElem?_map, List.size_toArray, List.length_map]
  split
  · rfl
  split
  · rw [Option.map_map, Option.map_map]
    rfl
  split
  -- The last child is asked for its own length, which has not changed.
  · simp only [Option.map_map, Function.comp_def, hf]
  · cases placeAmong? marks t with
    | none => rfl
    | some place =>
        rw [Option.bind_some, Option.bind_some, Option.map_map, Option.map_map]
        rfl

/-- A chain of moved curves is the moved chain. -/
theorem curve_moved (children : List (Curve ℝ)) (rest : Pose ℝ) :
    (Chain.mk (children.map r.curve) (r.pose rest)).curve = r.curve (Chain.mk children rest).curve
    := by
  have hlengths : (children.map r.curve).map (·.length) = children.map (·.length) := by
    rw [List.map_map]
    rfl
  have hmarks : (Chain.mk (children.map r.curve) (r.pose rest)).marks
      = (Chain.mk children rest).marks := by
    rw [marks, marks, hlengths]
  have hlength : (Chain.mk (children.map r.curve) (r.pose rest)).length
      = (Chain.mk children rest).length := by
    rw [length, length, hlengths]
  -- The child with the same index answers, for the same distance.
  have hanswer : ∀ t, (Chain.mk (children.map r.curve) (r.pose rest)).answerer? t
      = ((Chain.mk children rest).answerer? t).map fun answer => (r.curve answer.1, answer.2) := by
    intro t
    rw [answerer?, hmarks, hlength, answerer?]
    exact answererAmong?_map r.curve (fun _ => rfl) children _ _ t
  have hsame : ∀ t, (Chain.mk (children.map r.curve) (r.pose rest)).curve.pose t
        = r.pose ((Chain.mk children rest).curve.pose t) ∧
      (Chain.mk (children.map r.curve) (r.pose rest)).curve.defined t
        = (Chain.mk children rest).curve.defined t := by
    intro t
    have hmoved := hanswer t
    cases h : (Chain.mk children rest).answerer? t with
    | none =>
        rw [h, Option.map_none] at hmoved
        rw [pose_of_none _ t hmoved, pose_of_none _ t h, defined_of_none _ t hmoved,
          defined_of_none _ t h]
        exact ⟨rfl, rfl⟩
    | some answer =>
        rw [h, Option.map_some] at hmoved
        rw [pose_of_some _ t _ _ hmoved, pose_of_some _ t _ _ h, defined_of_some _ t _ _ hmoved,
          defined_of_some _ t _ _ h]
        exact ⟨rfl, rfl⟩
  exact Curve.ext_fields _ _ hlength (funext fun t => (hsame t).1) (funext fun t => (hsame t).2)

end Chain

namespace Bezier

/-- Rounds of interpolation commute with whatever moves points between others along. -/
theorem collapse_map (f : Vec ℝ → Vec ℝ) (t : ℝ)
    (hf : ∀ p q : Vec ℝ, f (p.lerp q t) = (f p).lerp (f q) t) (rounds : ℕ)
    (points : List (Vec ℝ)) :
    collapse t rounds (points.map f) = (collapse t rounds points).map f := by
  induction rounds generalizing points with
  | zero => rfl
  | succ rounds ih =>
      have hround : interpolate t (points.map f) = (interpolate t points).map f :=
        map_zipWith_tail f _ _ f (fun p q => (hf p q).symm) points
      rw [collapse, collapse, hround, ih]

/-- So does evaluation, if there is a point to be left. -/
theorem evaluate_map (f : Vec ℝ → Vec ℝ) (b : Bezier ℝ) (t : ℝ)
    (hf : ∀ p q : Vec ℝ, f (p.lerp q t) = (f p).lerp (f q) t) (h : b.points ≠ []) :
    (Bezier.mk (b.points.map f)).evaluate t = f (b.evaluate t) := by
  -- All rounds leave one point, on either side.
  have hmoved := (Bezier.mk (b.points.map f)).collapse_all t (by simpa using h)
  rw [List.length_map, collapse_map f t hf, b.collapse_all t h, List.map_singleton,
    List.singleton_inj] at hmoved
  exact hmoved.symm

theorem evaluate_moved (b : Bezier ℝ) (h : b.points ≠ []) (t : ℝ) :
    (r.bezier b).evaluate t = r.point (b.evaluate t) :=
  evaluate_map r.point b t (fun p q => r.point_lerp p q t) h

/-- The differences of moved points are turned. A curve without differences has the derivative
    zero, which stays. -/
theorem derivative_moved (b : Bezier ℝ) (t : ℝ) :
    (r.bezier b).derivative t = r.direction (b.derivative t) := by
  have hdifferences : (r.bezier b).hodograph.points = b.hodograph.points.map r.direction := by
    simp only [RigidMotion.bezier, hodograph, List.length_map]
    exact map_zipWith_tail r.point _ _ r.direction
      (fun p q => by rw [r.point_sub, r.direction_scale]) b.points
  rw [derivative, derivative]
  by_cases hempty : b.hodograph.points = []
  · rw [hempty, List.map_nil] at hdifferences
    rw [evaluate, evaluate, hdifferences, hempty]
    exact r.direction_zero.symm
  -- Vectors are mixed as points are, and turned along.
  · have hturned := evaluate_map r.direction b.hodograph t (fun p q => r.direction_lerp p q t) hempty
    rw [← hdifferences] at hturned
    exact hturned

theorem samples_moved (b : Bezier ℝ) (h : b.points ≠ []) (segments : ℕ) :
    (r.bezier b).samples segments = (b.samples segments).map r.point := by
  rw [samples, samples, List.map_map]
  exact List.map_congr_left fun i _ => b.evaluate_moved r h _

end Bezier

namespace Polyline

theorem startDirection_moved (b : Bezier ℝ) (segments : Int) :
    (ofBezier (r.bezier b) segments).startDirection
      = r.direction (ofBezier b segments).startDirection := by
  have hderivative := b.derivative_moved r 0
  rw [startDirection, startDirection, ← r.direction_normalized]
  exact congrArg Vec.normalized hderivative

theorem endDirection_moved (b : Bezier ℝ) (segments : Int) :
    (ofBezier (r.bezier b) segments).endDirection
      = r.direction (ofBezier b segments).endDirection := by
  have hderivative := b.derivative_moved r 1
  rw [endDirection, endDirection, ← r.direction_normalized]
  exact congrArg Vec.normalized hderivative

/-- The polyline of a moved curve has the moved vertices, and moved chords between them. -/
theorem curve_moved (b : Bezier ℝ) (h : b.points ≠ []) (segments : Int) :
    (ofBezier (r.bezier b) segments).curve = r.curve (ofBezier b segments).curve := by
  have hvertices : (ofBezier (r.bezier b) segments).vertices
      = (ofBezier b segments).vertices.map r.point := b.samples_moved r h _
  have hchildren : (ofBezier (r.bezier b) segments).chain.children
      = (ofBezier b segments).chain.children.map r.curve := by
    -- Neighbouring vertices are moved together.
    have hchords : (ofBezier (r.bezier b) segments).chords
        = (ofBezier b segments).chords.map r.line := by
      rw [chords, hvertices]
      exact map_zipWith_tail r.point _ _ r.line (fun _ _ => rfl) _
    rw [chain, chain, hchords, List.map_map, List.map_map]
    exact List.map_congr_left fun s _ => s.curve_moved r
  have hrest : (ofBezier (r.bezier b) segments).chain.rest
      = r.pose (ofBezier b segments).chain.rest := by
    refine Pose.ext_fields _ _ ?_ (startDirection_moved r b segments)
    -- There is a first vertex, since there is a chord.
    cases hfirst : (ofBezier b segments).vertices with
    | nil =>
        have hnone : ((ofBezier b segments).vertices).length = 0 := by rw [hfirst]; rfl
        rw [(ofBezier b segments).vertices_eq, Bezier.samples, List.length_map,
          List.length_range] at hnone
        exact absurd hnone (Nat.succ_ne_zero _)
    | cons v vs =>
        rw [hfirst, List.map_cons] at hvertices
        simp only [chain, hvertices, hfirst, List.head?_cons, Option.getD_some]
        rfl
  have hchain : (ofBezier (r.bezier b) segments).chain
      = ⟨(ofBezier b segments).chain.children.map r.curve,
        r.pose (ofBezier b segments).chain.rest⟩ := by
    rw [← hchildren, ← hrest]
  rw [curve, hchain, Chain.curve_moved]
  rfl

end Polyline

end PlanarMotion
