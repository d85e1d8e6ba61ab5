import PlanarMotion.Scalar.Basic

/-!
# Plane Vectors

Points and directions of the plane, and what a place on a path looks like: where it
is and which way the path runs there.

The one thing that can go wrong in plane geometry is an infinite angle, which has no
sine. Every function here answers for it anyway, so that geometry stays free of error
cases; `DomainError` and the functions named with a question mark are for callers who
must refuse such an angle.

## Main definitions

* `Vec`: A plane vector.
* `Vec.length`, `Vec.normalized`, `Vec.dot`, `Vec.angle`: Measures of a vector.
* `Vec.rotate`, `Vec.perpendicular`: Turns of a vector.
* `Vec.ofAngle`: The vector at an angle.
* `Pose`: A point with a direction.
* `DomainError`: An angle without a sine.
-/

namespace PlanarMotion

/-- A vector of the plane. -/
structure Vec (α : Type) where
  /-- The abscissa. -/
  x : α
  /-- The ordinate. -/
  y : α
  deriving DecidableEq, Repr

/-- A point of a path and the direction in which the path passes it. -/
structure Pose (α : Type) where
  /-- The point. -/
  position : Vec α
  /-- The direction, of length one unless the path stands still. -/
  direction : Vec α
  deriving DecidableEq, Repr

/-- Why a geometric question has no answer. -/
inductive DomainError where
  /-- The sine or cosine of an infinite angle was needed. -/
  | infiniteAngle
  deriving DecidableEq, Repr

/-- The text that reports a domain error. -/
def DomainError.message : DomainError → String
  | .infiniteAngle => "math domain error"

/-- An answer that stands only if the angles behind it were finite. -/
def DomainError.guard {β : Type} (defined : Bool) (answer : β) : Except DomainError β :=
  if defined then .ok answer else .error .infiniteAngle

namespace Vec

variable {α : Type} [Scalar α]

/-- The zero vector. -/
def zero : Vec α :=
  ⟨0, 0⟩

/-- The unit vector along the abscissa. -/
def unitX : Vec α :=
  ⟨1, 0⟩

instance : Add (Vec α) where
  add a b := ⟨a.x + b.x, a.y + b.y⟩

instance : Sub (Vec α) where
  sub a b := ⟨a.x - b.x, a.y - b.y⟩

instance : Neg (Vec α) where
  neg a := ⟨-a.x, -a.y⟩

instance : BEq (Vec α) where
  beq a b := a.x == b.x && a.y == b.y

/-- A vector times a number. -/
def scale (a : Vec α) (s : α) : Vec α :=
  ⟨a.x * s, a.y * s⟩

/-- The length of a vector. -/
def length (a : Vec α) : α :=
  Scalar.hypot a.x a.y

/-- The vector of length one in the same direction; the zero vector stays zero. -/
def normalized (a : Vec α) : Vec α :=
  let l := a.length
  if l == 0 then zero else ⟨a.x / l, a.y / l⟩

/-- The inner product. -/
def dot (a b : Vec α) : α :=
  a.x * b.x + a.y * b.y

/-- The angle from the abscissa, more than half a turn below zero and at most half a
    turn above. -/
def angle (a : Vec α) : α :=
  Scalar.atan2 a.y a.x

/-- The vector turned counter-clockwise by an angle. -/
def rotate (a : Vec α) (angle : α) : Vec α :=
  let c := Scalar.cos angle
  let s := Scalar.sin angle
  ⟨a.x * c - a.y * s, a.x * s + a.y * c⟩

/-- The vector turned counter-clockwise by a quarter, without rounding. -/
def perpendicular (a : Vec α) : Vec α :=
  ⟨-a.y, a.x⟩

/-- The vector at an angle from the abscissa with a given length. -/
def ofAngle (angle radius : α) : Vec α :=
  ⟨radius * Scalar.cos angle, radius * Scalar.sin angle⟩

/-- The point a fraction `t` of the way from `a` to `b`. -/
def lerp (a b : Vec α) (t : α) : Vec α :=
  ⟨Scalar.lerp a.x b.x t, Scalar.lerp a.y b.y t⟩

/-- Turns a vector, unless the angle is infinite. -/
def rotate? (a : Vec α) (angle : α) : Except DomainError (Vec α) :=
  DomainError.guard (!Scalar.isInfinite angle) (a.rotate angle)

/-- The vector at an angle, unless the angle is infinite. -/
def ofAngle? (angle radius : α) : Except DomainError (Vec α) :=
  DomainError.guard (!Scalar.isInfinite angle) (ofAngle angle radius)

end Vec

end PlanarMotion
