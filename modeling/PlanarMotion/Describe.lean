import PlanarMotion.Build.MoverBuilder
import PlanarMotion.Number.Fixed
import PlanarMotion.Number.Shortest
import PlanarMotion.Scalar.Double

/-!
# Descriptions

Short texts that show geometry and movers for diagnosis, with every number in the fewest
digits that read back. A chain and a sequence are described by how many parts they have,
not by the parts themselves.

## Main definitions

* `Vec.describe`, `Path.describe`, `Mover.describe`: What a value is.
* `Path.kind`: The kind of path in one word.
* `Leg.builtMessage`: What the log says of a leg that has been built.
-/

namespace PlanarMotion

open PlanarMotion.Number

/-- A double in the fewest digits that read back. -/
def describeNumber (x : Float) : String :=
  String.ofList (shortest x)

/-- A vector with its coordinates. -/
def Vec.describe (v : Vec Float) : String :=
  "Vector2(x=" ++ describeNumber v.x ++ ", y=" ++ describeNumber v.y ++ ")"

/-- Points in parentheses; a single one is followed by a comma. -/
def describePoints : List (Vec Float) → String
  | [p] => "(" ++ p.describe ++ ",)"
  | points => "(" ++ ", ".intercalate (points.map Vec.describe) ++ ")"

namespace Path

/-- The kind of path in one word. -/
def kind {α : Type} [Scalar α] : Path α → String
  | .line _ => "LineSegment"
  | .arc _ => "Arc"
  | .polyline _ => "ApproxBezier"
  | .chain _ _ => "SegmentedPath"

/-- What a path is. -/
def describe (p : Path Float) : String :=
  let parts :=
    match p with
    | .line s => s.start.describe ++ ", " ++ s.stop.describe
    | .arc a =>
      a.center.describe ++ ", radius=" ++ describeNumber a.radius ++ ", start_angle="
        ++ describeNumber a.startAngle ++ ", end_angle=" ++ describeNumber a.endAngle
    | .polyline q => describePoints q.bezier.points ++ ", segments=" ++ toString q.segments
    | .chain children _ =>
      toString children.length ++ " curves, length=" ++ describeNumber p.length
  p.kind ++ "(" ++ parts ++ ")"

end Path

/-- What a mover is. -/
def Mover.describe (m : Mover Float) : String :=
  match m with
  | .leg l =>
    "SimpleMover(" ++ l.easing.name ++ ", duration=" ++ describeNumber l.duration ++ ", path="
      ++ l.path.describe ++ ")"
  | .sequence movers =>
    "SequencedMover(" ++ toString movers.length ++ " phases, duration="
      ++ describeNumber m.duration ++ ")"

/-- What the log says of a leg that has been built. -/
def Leg.builtMessage (l : Leg Float) : String :=
  "Built " ++ l.easing.name ++ " phase: duration=" ++ describeNumber l.duration
    ++ ", segments=" ++ toString l.path.pieces.length ++ ", length="
    ++ String.ofList (fixed 3 l.path.length)

end PlanarMotion
