import PlanarMotion.Path.Basic
import PlanarMotion.Program.Basic

/-!
# Building Paths

A builder carries a cursor, the pose at which drawing goes on, and the pieces drawn so
far. Each step returns a new builder, so a builder that has been used can be used again.

The cursor after a piece is computed from the step itself and not by asking the piece
for its last pose, which keeps given end points exact. A piece without direction, such
as a line without length, leaves the cursor's direction as it was.

Only a turn can fail, when the angle at which it ends is infinite. `defines` says when a
step does not, and `draw?` refuses the others.

## Main definitions

* `Pose.advance`: The cursor after a piece.
* `arcCenter`: The center of a turn that leaves straight on.
* `PathBuilder`: A cursor and the pieces drawn.
* `PathBuilder.draw`, `PathBuilder.drawAll`: One step, and several.
* `PathBuilder.build`: The pieces as one path.

## Theorems

* `PathBuilder.drawAll_append`: Drawing may be interrupted anywhere.
* `PathBuilder.definesAll_append`: So may the question whether it needs no sine of an
  infinite angle.
-/

namespace PlanarMotion

variable {α : Type} [Scalar α]

/-- The pose at the origin along the abscissa, where drawing starts. -/
def Pose.origin : Pose α :=
  ⟨Vec.zero, Vec.unitX⟩

/-- The cursor at a new point; a direction without length keeps the old one. -/
def Pose.advance (cursor : Pose α) (position direction : Vec α) : Pose α :=
  ⟨position, if direction.length == 0 then cursor.direction else direction⟩

/-- The point at a distance straight on from the cursor. -/
def Pose.ahead (cursor : Pose α) (distance : α) : Vec α :=
  cursor.position + cursor.direction.scale distance

/-- The center of a turn that leaves the cursor straight on: on the left for a positive
    angle, else on the right. -/
def arcCenter (cursor : Pose α) (radius angle : α) : Vec α :=
  let left := cursor.direction.perpendicular
  let normal := if angle ≤ 0 then -left else left
  cursor.position + normal.scale radius

/-- The arc from the cursor around a center by a signed angle. -/
def arcAround (cursor : Pose α) (center : Vec α) (angle : α) : Arc α :=
  let offset := cursor.position - center
  -- The first angle is where the cursor is seen from the center.
  ⟨center, offset.length, offset.angle, offset.angle + angle⟩

/-- A cursor and the pieces drawn so far, in order. -/
structure PathBuilder (α : Type) [Scalar α] where
  /-- Where drawing goes on. -/
  cursor : Pose α
  /-- The pieces drawn so far. -/
  pieces : List (Path α)

namespace PathBuilder

/-- A builder that has drawn nothing. -/
def ofCursor (cursor : Pose α) : PathBuilder α :=
  ⟨cursor, []⟩

/-- Adds a piece that ends at a point in a direction. -/
def push (b : PathBuilder α) (piece : Path α) (position direction : Vec α) : PathBuilder α :=
  ⟨b.cursor.advance position direction, b.pieces ++ [piece]⟩

/-- Moves the cursor without drawing. -/
def start (b : PathBuilder α) (point : Vec α) : PathBuilder α :=
  ⟨⟨point, b.cursor.direction⟩, b.pieces⟩

/-- Draws a line to a point. -/
def line (b : PathBuilder α) (stop : Vec α) : PathBuilder α :=
  let segment : LineSegment α := ⟨b.cursor.position, stop⟩
  b.push (.line segment) stop segment.direction

/-- Draws a line of a given length straight on. -/
def lineContinue (b : PathBuilder α) (length : α) : PathBuilder α :=
  b.line (b.cursor.ahead length)

/-- The angle of the direction after a turn: square to the radius, to the side that the
    turn goes. -/
def headingAfter (arc : Arc α) (angle : α) : α :=
  arc.endAngle + (if 0 < angle then Scalar.quarterTurn else -Scalar.quarterTurn)

/-- Turns around a center by a signed angle. -/
def arc (b : PathBuilder α) (center : Vec α) (angle : α) : PathBuilder α :=
  let arc := arcAround b.cursor center angle
  b.push (.arc arc) (center + Vec.ofAngle arc.endAngle arc.radius)
    (Vec.ofAngle (headingAfter arc angle) 1)

/-- Turns with a given radius by a signed angle, leaving straight on. -/
def arcContinue (b : PathBuilder α) (radius angle : α) : PathBuilder α :=
  b.arc (arcCenter b.cursor radius angle) angle

/-- Draws a cubic Bezier curve as a number of chords, at least one. -/
def bezier (b : PathBuilder α) (c1 c2 stop : Vec α) (segments : Int) : PathBuilder α :=
  let polyline := Polyline.ofBezier ⟨[b.cursor.position, c1, c2, stop]⟩ segments
  b.push (.polyline polyline) stop polyline.endDirection

/-- Draws a cubic Bezier curve that leaves straight on. -/
def bezierContinue (b : PathBuilder α) (c1Offset : α) (c2 stop : Vec α) (segments : Int) :
    PathBuilder α :=
  b.bezier (b.cursor.ahead c1Offset) c2 stop segments

/-- Carries out one statement. -/
def draw (b : PathBuilder α) : Statement α → PathBuilder α
  | .start point => b.start point
  | .line stop => b.line stop
  | .lineContinue length => b.lineContinue length
  | .arc center angle => b.arc center angle
  | .arcContinue radius angle => b.arcContinue radius angle
  | .bezier c1 c2 stop segments => b.bezier c1 c2 stop segments
  | .bezierContinue c1Offset c2 stop segments => b.bezierContinue c1Offset c2 stop segments

/-- Carries out statements in order. -/
def drawAll (b : PathBuilder α) (statements : List (Statement α)) : PathBuilder α :=
  statements.foldl draw b

/-- Whether a turn needs no sine of an infinite angle. -/
def definesArc (b : PathBuilder α) (center : Vec α) (angle : α) : Bool :=
  let arc := arcAround b.cursor center angle
  !Scalar.isInfinite arc.endAngle && !Scalar.isInfinite (headingAfter arc angle)

/-- Whether a statement needs no sine of an infinite angle. -/
def defines (b : PathBuilder α) : Statement α → Bool
  | .arc center angle => b.definesArc center angle
  | .arcContinue radius angle => b.definesArc (arcCenter b.cursor radius angle) angle
  | _ => true

/-- Whether none of several statements needs the sine of an infinite angle. -/
def definesAll (b : PathBuilder α) : List (Statement α) → Bool
  | [] => true
  | s :: rest => b.defines s && (b.draw s).definesAll rest

/-- Drawing may be interrupted anywhere. -/
theorem drawAll_append (b : PathBuilder α) (front rest : List (Statement α)) :
    b.drawAll (front ++ rest) = (b.drawAll front).drawAll rest :=
  List.foldl_append

/-- Statements are drawn without the sine of an infinite angle if each part of them is. -/
theorem definesAll_append (b : PathBuilder α) (front rest : List (Statement α)) :
    b.definesAll (front ++ rest) = (b.definesAll front && (b.drawAll front).definesAll rest) := by
  induction front generalizing b with
  | nil => rfl
  | cons s front ih =>
    rw [List.cons_append, definesAll, definesAll, ih, Bool.and_assoc]
    rfl

/-- Carries out one statement, unless it turns to an infinite angle. -/
def draw? (b : PathBuilder α) (s : Statement α) : Except DomainError (PathBuilder α) :=
  DomainError.guard (b.defines s) (b.draw s)

/-- Carries out statements in order, unless one turns to an infinite angle. -/
def drawAll? (b : PathBuilder α) (statements : List (Statement α)) :
    Except DomainError (PathBuilder α) :=
  DomainError.guard (b.definesAll statements) (b.drawAll statements)

/-- The pieces as one path; without length it rests at the cursor. -/
def build (b : PathBuilder α) : Path α :=
  .chain b.pieces b.cursor

end PathBuilder

end PlanarMotion
