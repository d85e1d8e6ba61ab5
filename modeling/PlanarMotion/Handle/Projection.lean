import PlanarMotion.Build.MoverBuilder
import PlanarMotion.Handle.Basic

/-!
# The Handles of a Program

Every literal that places something gets a handle. The program is replayed with the same
cursor that compiling threads through it, and each statement freezes what its handles
need to know of the cursor in front of it.

## Main definitions

* `Statement.handles`: The handles of a statement behind a cursor.
* `Program.handles`: The handles of a program, in the order of its literals.
* `Program.handles?`: The same, unless the program turns to an infinite angle.
-/

namespace PlanarMotion

variable {α : Type} [Scalar α]

/-- The handles of a statement, given the cursor in front of it and the address of its
    first argument. -/
def Statement.handles (s : Statement α) (cursor : Pose α) (address : Address) :
    List (Handle α) :=
  let nth (argument : Int) : Address := { address with argument := argument }
  match s with
  | .start point => [⟨nth 0, .start, .start, .free point⟩]
  | .line stop => [⟨nth 0, .line, .keyPoint, .free stop⟩]
  | .lineContinue length =>
    [⟨nth 0, .line, .keyPoint, .ray cursor.position cursor.direction length⟩]
  | .arc center angle =>
    let offset := cursor.position - center
    [⟨nth 0, .arc, .arc, .free center⟩,
      ⟨nth 1, .arc, .keyPoint, .onArc center offset.length offset.angle angle false⟩]
  | .arcContinue radius angle =>
    let center := arcCenter cursor radius angle
    let baseAngle := (cursor.position - center).angle
    [⟨nth 0, .arc, .arc,
        .radius cursor.position cursor.direction (decide (0 < angle)) radius⟩,
      ⟨nth 1, .arc, .keyPoint, .onArc center radius baseAngle angle true⟩]
  | .bezier c1 c2 stop _ =>
    [⟨nth 0, .bezier, .bezier, .free c1⟩, ⟨nth 1, .bezier, .bezier, .free c2⟩,
      ⟨nth 2, .bezier, .keyPoint, .free stop⟩]
  | .bezierContinue c1Offset c2 stop _ =>
    [⟨nth 0, .bezier, .bezier, .ray cursor.position cursor.direction c1Offset⟩,
      ⟨nth 1, .bezier, .bezier, .free c2⟩, ⟨nth 2, .bezier, .keyPoint, .free stop⟩]

/-- The handles of statements behind a builder, the first of which has a given index. -/
def statementHandles (phase : Nat) :
    Nat → PathBuilder α → List (Statement α) → List (Handle α)
  | _, _, [] => []
  | index, b, s :: rest =>
    s.handles b.cursor ⟨phase, index, 0⟩ ++ statementHandles phase (index + 1) (b.draw s) rest

/-- The handles of phases behind a cursor, the first of which has a given index. -/
def phaseHandles : Nat → Pose α → List (Phase α) → List (Handle α)
  | _, _, [] => []
  | index, cursor, p :: rest =>
    let b := PathBuilder.ofCursor cursor
    statementHandles index 0 b p.statements
      ++ phaseHandles (index + 1) (b.drawAll p.statements).cursor rest

/-- The handles of a program, in the order of its literals. -/
def Program.handles (p : Program α) : List (Handle α) :=
  phaseHandles 0 Pose.origin p.phases

/-- The handles of a program, unless it turns to an infinite angle. -/
def Program.handles? (p : Program α) : Except DomainError (List (Handle α)) :=
  DomainError.guard p.drawable p.handles

end PlanarMotion
