import PlanarMotion.Path.Segment

/-!
# Bezier Curves

A Bezier curve of any degree, evaluated by repeated interpolation between neighbouring
points, and its approximation by a polyline. The curve itself runs by a parameter in
the unit interval and not by arclength; the polyline through equally spaced parameters
runs by arclength, so that it can be part of a path.

The polyline keeps its vertices, since each costs a full evaluation, together with the
equation that says what they are.

## Main definitions

* `Bezier`: A list of control points.
* `Bezier.evaluate`: The point at a parameter, by de Casteljau's scheme.
* `Bezier.hodograph`: The curve of derivatives.
* `Polyline`: Equally many chords as asked for.
* `Polyline.curve`: The chords end to end.

## Theorems

* `Bezier.length_collapse`: Each round leaves one point less.
* `Bezier.collapse_all`: All rounds together leave one point.
-/

namespace PlanarMotion

variable {α : Type} [Scalar α]

/-- A Bezier curve, given by its control points. -/
structure Bezier (α : Type) where
  /-- The control points. -/
  points : List (Vec α)
  deriving DecidableEq, Repr

namespace Bezier

/-- One round of the scheme: a point on each line between neighbours. -/
def interpolate (t : α) (points : List (Vec α)) : List (Vec α) :=
  List.zipWith (fun a b => a.lerp b t) points points.tail

/-- A number of rounds of the scheme. -/
def collapse (t : α) : Nat → List (Vec α) → List (Vec α)
  | 0, points => points
  | rounds + 1, points => collapse t rounds (interpolate t points)

/-- The point at a parameter. A curve without points stays at the origin. -/
def evaluate (b : Bezier α) (t : α) : Vec α :=
  ((collapse t (b.points.length - 1) b.points).head?).getD Vec.zero

/-- A round leaves one point less. -/
theorem length_interpolate (t : α) (points : List (Vec α)) :
    (interpolate t points).length = points.length - 1 := by
  rw [interpolate, List.length_zipWith, List.length_tail]
  omega

/-- Each round leaves one point less. -/
theorem length_collapse (t : α) (rounds : Nat) (points : List (Vec α)) :
    (collapse t rounds points).length = points.length - rounds := by
  induction rounds generalizing points with
  | zero => rfl
  | succ rounds ih =>
    rw [collapse, ih, length_interpolate]
    omega

/-- All rounds together leave one point. -/
theorem collapse_all (b : Bezier α) (t : α) (h : b.points ≠ []) :
    collapse t (b.points.length - 1) b.points = [b.evaluate t] := by
  have hsome := List.length_pos_iff.mpr h
  have hone : (collapse t (b.points.length - 1) b.points).length = 1 := by
    rw [length_collapse]
    omega
  rcases List.length_eq_one_iff.mp hone with ⟨p, hp⟩
  rw [evaluate, hp]
  rfl

/-- The curve of derivatives: the differences of neighbours, times the degree. -/
def hodograph (b : Bezier α) : Bezier α :=
  let degree : α := Scalar.ofNat (b.points.length - 1)
  ⟨List.zipWith (fun p q => (q - p).scale degree) b.points b.points.tail⟩

/-- The derivative at a parameter. -/
def derivative (b : Bezier α) (t : α) : Vec α :=
  b.hodograph.evaluate t

/-- The points at `segments + 1` equally spaced parameters. -/
def samples (b : Bezier α) (segments : Nat) : List (Vec α) :=
  (List.range (segments + 1)).map fun i => b.evaluate (Scalar.ofNat i / Scalar.ofNat segments)

end Bezier

/-- A Bezier curve, approximated by chords. -/
structure Polyline (α : Type) [Scalar α] where
  /-- The approximated curve. -/
  bezier : Bezier α
  /-- The number of chords. -/
  segments : Nat
  /-- The ends of the chords. -/
  vertices : List (Vec α)
  /-- There is a chord. -/
  segments_pos : 0 < segments
  /-- The vertices lie on the curve, at equally spaced parameters. -/
  vertices_eq : vertices = bezier.samples segments

namespace Polyline

/-- The approximation of a curve by a number of chords, at least one. -/
def ofBezier (bezier : Bezier α) (segments : Int) : Polyline α where
  bezier := bezier
  -- A count that is not positive is taken for one.
  segments := max 1 segments.toNat
  vertices := bezier.samples (max 1 segments.toNat)
  segments_pos := by omega
  vertices_eq := rfl

/-- The direction in which the curve starts. -/
def startDirection (p : Polyline α) : Vec α :=
  (p.bezier.derivative 0).normalized

/-- The direction in which the curve ends. -/
def endDirection (p : Polyline α) : Vec α :=
  (p.bezier.derivative 1).normalized

/-- The chords in order. -/
def chords (p : Polyline α) : List (LineSegment α) :=
  List.zipWith LineSegment.mk p.vertices p.vertices.tail

/-- The chords end to end. Without length they rest where the curve starts, in the
    direction in which it would leave. -/
def chain (p : Polyline α) : Chain α where
  children := p.chords.map LineSegment.curve
  rest := ⟨p.vertices.head?.getD Vec.zero, p.startDirection⟩

/-- A polyline as a curve. -/
def curve (p : Polyline α) : Curve α :=
  p.chain.curve

end Polyline

end PlanarMotion
