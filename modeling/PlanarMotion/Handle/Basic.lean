import PlanarMotion.Vec

/-!
# Handles

A handle is a point that can be dragged to change one literal of a program. It is a
snapshot: it carries the geometry needed to turn a place back into the literal, and the
address of that literal in the program it was made from.

Addresses are integers and not indices, because a handle may be stale or written by
hand, and one that addresses nothing has to be a value too.

## Main definitions

* `Address`: Phase, statement and argument.
* `SegmentKind`, `Marker`: The kind of segment, and how to draw the handle.
* `Grip`: What a drag changes, with the geometry to invert it.
* `Handle`: A grip with an address.
* `Handle.position`: Where a handle is drawn.

## Theorems

* `SegmentKind.ofName?_name`, `Marker.ofName?_name`: Both are found by their names.
-/

namespace PlanarMotion

/-- Where a literal stands in a program. -/
structure Address where
  /-- The index of the phase. -/
  phase : Int
  /-- The index of the statement in the phase. -/
  statement : Int
  /-- The index of the argument in the statement. -/
  argument : Int
  deriving DecidableEq, Repr

/-- The kind of segment that a handle belongs to. -/
inductive SegmentKind where
  /-- The start of a path. -/
  | start
  /-- A line. -/
  | line
  /-- An arc. -/
  | arc
  /-- A Bezier curve. -/
  | bezier
  deriving DecidableEq, Repr

/-- The name of a kind of segment. -/
def SegmentKind.name : SegmentKind → String
  | .start => "Start"
  | .line => "Line"
  | .arc => "Arc"
  | .bezier => "Bezier"

/-- The kind of segment of a given name. -/
def SegmentKind.ofName? (name : String) : Option SegmentKind :=
  [SegmentKind.start, .line, .arc, .bezier].find? fun k => k.name == name

/-- A kind of segment is found by its name. -/
theorem SegmentKind.ofName?_name (k : SegmentKind) : SegmentKind.ofName? k.name = some k := by
  cases k <;> decide

/-- How a handle is drawn. -/
inductive Marker where
  /-- As the start of a path. -/
  | start
  /-- As a point that the path passes. -/
  | keyPoint
  /-- As the center of an arc. -/
  | arc
  /-- As a control point off the path. -/
  | bezier
  deriving DecidableEq, Repr

/-- The name of a marker. -/
def Marker.name : Marker → String
  | .start => "Start"
  | .keyPoint => "KeyPoint"
  | .arc => "Arc"
  | .bezier => "Bezier"

/-- The marker of a given name. -/
def Marker.ofName? (name : String) : Option Marker :=
  [Marker.start, .keyPoint, .arc, .bezier].find? fun m => m.name == name

/-- A marker is found by its name. -/
theorem Marker.ofName?_name (m : Marker) : Marker.ofName? m.name = some m := by
  cases m <;> decide

/-- What a drag changes. -/
inductive Grip (α : Type) where
  /-- A point, to be dragged anywhere. -/
  | free (position : Vec α)
  /-- A distance along a fixed direction. -/
  | ray (anchor direction : Vec α) (length : α)
  /-- The angle of a turn, to be dragged around its center. A locked sign stays. -/
  | onArc (center : Vec α) (radius baseAngle angle : α) (keepsSign : Bool)
  /-- The radius of a turn, to be dragged across the direction in which it leaves. -/
  | radius (start direction : Vec α) (counterClockwise : Bool) (radius : α)
  deriving DecidableEq, Repr

/-- The name of a kind of grip. -/
def Grip.kind {α : Type} : Grip α → String
  | .free .. => "Free"
  | .ray .. => "Ray"
  | .onArc .. => "OnArc"
  | .radius .. => "Radius"

/-- A point that can be dragged. -/
structure Handle (α : Type) where
  /-- The literal that it changes. -/
  address : Address
  /-- The kind of segment that it belongs to. -/
  segment : SegmentKind
  /-- How it is drawn. -/
  marker : Marker
  /-- What it changes. -/
  grip : Grip α
  deriving DecidableEq, Repr

variable {α : Type} [Scalar α]

/-- Where a grip is drawn. -/
def Grip.position : Grip α → Vec α
  | .free position => position
  | .ray anchor direction length => anchor + direction.scale length
  | .onArc center distance baseAngle angle _ =>
    center + Vec.ofAngle (baseAngle + angle) distance
  | .radius start direction counterClockwise distance =>
    let left := direction.normalized.perpendicular
    start + (if counterClockwise then left else -left).scale distance

/-- Whether drawing a grip needs no sine of an infinite angle. -/
def Grip.drawable : Grip α → Bool
  | .onArc _ _ baseAngle angle _ => !Scalar.isInfinite (baseAngle + angle)
  | _ => true

/-- Where a handle is drawn. -/
def Handle.position (h : Handle α) : Vec α :=
  h.grip.position

/-- Where a handle is drawn, unless that needs the sine of an infinite angle. -/
def Handle.position? (h : Handle α) : Except DomainError (Vec α) :=
  DomainError.guard h.grip.drawable h.position

end PlanarMotion
