import PlanarMotion.Path.Curve

/-!
# Lines and Arcs

The two pieces of a path that are curves by arclength in closed form. A line without
length has no direction and reports the zero vector. An arc may sweep more than a full
turn, in either sense; the sense shows in which of its angles is greater.

## Main definitions

* `LineSegment`, `LineSegment.curve`: A straight line between two points.
* `Arc`, `Arc.curve`: A part of a circle, swept from one angle to another.
-/

namespace PlanarMotion

variable {α : Type} [Scalar α]

/-- A straight line between two points. -/
structure LineSegment (α : Type) where
  /-- Where it starts. -/
  start : Vec α
  /-- Where it ends. -/
  stop : Vec α
  deriving DecidableEq, Repr

namespace LineSegment

/-- The direction of a line, the zero vector if it has no length. -/
def direction (s : LineSegment α) : Vec α :=
  (s.stop - s.start).normalized

/-- The length of a line. -/
def length (s : LineSegment α) : α :=
  (s.stop - s.start).length

/-- A line as a curve. -/
def curve (s : LineSegment α) : Curve α :=
  let direction := s.direction
  let length := s.length
  { length := length
    pose := fun t => ⟨s.start + direction.scale (Scalar.clamp t 0 length), direction⟩
    defined := fun _ => true }

end LineSegment

/-- A part of a circle, swept from one angle to another. -/
structure Arc (α : Type) where
  /-- The center of the circle. -/
  center : Vec α
  /-- The radius of the circle. -/
  radius : α
  /-- The angle of the first point, seen from the center. -/
  startAngle : α
  /-- The angle of the last point. -/
  endAngle : α
  deriving DecidableEq, Repr

namespace Arc

/-- Whether the arc turns to the left. -/
def counterClockwise (a : Arc α) : Bool :=
  decide (a.startAngle < a.endAngle)

/-- The length of an arc. -/
def length (a : Arc α) : α :=
  Scalar.abs (a.endAngle - a.startAngle) * a.radius

/-- The angle reached after a distance. -/
def angleAt (a : Arc α) (t : α) : α :=
  let length := a.length
  if length == 0 then a.startAngle
  else
    a.startAngle + (a.endAngle - a.startAngle) * (Scalar.clamp t 0 length / length)

/-- The pose at an angle: the direction is square to the radius. -/
def poseAtAngle (a : Arc α) (angle : α) : Pose α :=
  let direction : Vec α :=
    if a.counterClockwise then ⟨-Scalar.sin angle, Scalar.cos angle⟩
    else ⟨Scalar.sin angle, -Scalar.cos angle⟩
  ⟨a.center + Vec.ofAngle angle a.radius, direction⟩

/-- An arc as a curve. -/
def curve (a : Arc α) : Curve α where
  length := a.length
  pose := fun t => a.poseAtAngle (a.angleAt t)
  defined := fun t => !Scalar.isInfinite (a.angleAt t)

end Arc

end PlanarMotion
