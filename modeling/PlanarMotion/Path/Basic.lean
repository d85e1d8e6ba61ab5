import PlanarMotion.Path.Bezier

/-!
# Paths

A path is a line, an arc, a polyline through a Bezier curve, or any number of paths end
to end. `Path.curve` gives each its length and its poses, by the same chain rule at
every level.

## Main definitions

* `Path`: A piece of a path or a chain of paths.
* `Path.curve`: A path as a curve.
* `Path.pieces`: The pieces of a chain.

## Theorems

* `Path.curves_eq_map`: Several paths are curves one by one.
-/

namespace PlanarMotion

variable {α : Type} [Scalar α]

/-- A piece of a path, or paths end to end. -/
inductive Path (α : Type) [Scalar α] where
  /-- A straight line. -/
  | line (s : LineSegment α)
  /-- A part of a circle. -/
  | arc (a : Arc α)
  /-- Chords of a Bezier curve. -/
  | polyline (p : Polyline α)
  /-- Paths end to end, and where to rest if they have no length. -/
  | chain (children : List (Path α)) (rest : Pose α)

namespace Path

mutual

/-- A path as a curve. -/
def curve : Path α → Curve α
  | .line s => s.curve
  | .arc a => a.curve
  | .polyline p => p.curve
  | .chain children rest => Chain.curve ⟨curves children, rest⟩

/-- Several paths as curves. -/
def curves : List (Path α) → List (Curve α)
  | [] => []
  | path :: paths => curve path :: curves paths

end

/-- The length of a path. -/
def length (p : Path α) : α :=
  p.curve.length

/-- The pose after a distance along a path. -/
def pose (p : Path α) (t : α) : Pose α :=
  p.curve.pose t

/-- The pose after a distance, unless it needs the sine of an infinite angle. -/
def pose? (p : Path α) (t : α) : Except DomainError (Pose α) :=
  p.curve.pose? t

/-- The pieces of a chain; any other path is its own only piece. -/
def pieces : Path α → List (Path α)
  | .chain children _ => children
  | p => [p]

/-- Making curves of paths is making a curve of each. -/
theorem curves_eq_map (paths : List (Path α)) : curves paths = paths.map curve := by
  induction paths with
  | nil => rw [curves, List.map_nil]
  | cons path paths ih => rw [curves, List.map_cons, ih]

end Path

end PlanarMotion
