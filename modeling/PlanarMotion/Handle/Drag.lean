import PlanarMotion.Handle.Basic
import PlanarMotion.Program.Basic

/-!
# Dragging Handles

A drag turns the place to which a handle was moved back into the one literal behind it.
Of the drag only what the literal can express is kept: a point takes all of it, a
distance the part along its ray, an angle the part around its center, a radius the part
across the direction in which the turn leaves.

An angle changes by the smaller way around, so turns beyond a full one stay such. The
angle of a tangent-continuous turn may not change its sign, since that would move its
center to the other side; it stops short of zero. Dragging the center itself across the
direction does turn the sign.

A handle that does not fit the program it is applied to changes nothing. The cause is
kept for the log.

## Main definitions

* `Grip.drag?`: The statement after a drag, if the grip fits it.
* `Ignored`: Why a drag changes nothing.
* `Program.edit`: The program after a drag, or why there is none.
* `Program.change`: The program after a drag that may change nothing.

## Theorems

* `elementAt?_natCast`, `elementAt?_of_neg`: Integer indices find what natural ones do.
-/

namespace PlanarMotion

variable {α : Type} [Scalar α]

/-- The angle that is written, with its old sign, where an edit would bring a turn whose sign is
    locked to zero or beyond. A turn that stays on its side may become smaller. -/
def minimalSweep : α :=
  1 / Scalar.ofNat 100

/-- The distance along a ray that is nearest to a point. -/
def rayLength (anchor direction : Vec α) (point : Vec α) : α :=
  (point - anchor).dot direction.normalized

/-- The angle of a turn after its end was dragged to a point. -/
def draggedAngle (center : Vec α) (baseAngle angle : α) (keepsSign : Bool) (point : Vec α) : α :=
  let target := (point - center).angle
  -- The shorter way round from where the turn ends now.
  let dragged := angle + Scalar.wrapAngle (target - (baseAngle + angle))
  if keepsSign then
    -- The side is decided by the old angle. Without one, either side will do.
    if 0 < angle ∧ dragged ≤ 0 then minimalSweep
    else if angle < 0 ∧ 0 ≤ dragged then -minimalSweep
    else dragged
  else dragged

/-- The radius of a turn after its center was dragged to a point: positive on the left of
    the direction in which it leaves. -/
def signedRadius (start direction : Vec α) (point : Vec α) : α :=
  (point - start).dot (direction.rotate Scalar.quarterTurn).normalized

/-- Sets the point that an argument of a statement is, if the statement has one to set. -/
def Statement.setPoint? (s : Statement α) (argument : Int) (point : Vec α) :
    Option (Statement α) :=
  match s with
  | .start _ => some (.start point)
  | .line _ => some (.line point)
  | .arc _ angle => some (.arc point angle)
  | .bezier c1 c2 stop segments =>
    if argument = 0 then some (.bezier point c2 stop segments)
    else if argument = 1 then some (.bezier c1 point stop segments)
    else if argument = 2 then some (.bezier c1 c2 point segments)
    else none
  | .bezierContinue c1Offset c2 stop segments =>
    if argument = 1 then some (.bezierContinue c1Offset point stop segments)
    else if argument = 2 then some (.bezierContinue c1Offset c2 point segments)
    else none
  | _ => none

/-- Sets the distance straight on with which a statement starts, if it has one. -/
def Statement.setLength? (s : Statement α) (length : α) : Option (Statement α) :=
  match s with
  | .lineContinue _ => some (.lineContinue length)
  | .bezierContinue _ c2 stop segments => some (.bezierContinue length c2 stop segments)
  | _ => none

/-- Sets the angle by which a statement turns, if it does. -/
def Statement.setAngle? (s : Statement α) (angle : α) : Option (Statement α) :=
  match s with
  | .arc center _ => some (.arc center angle)
  | .arcContinue radius _ => some (.arcContinue radius angle)
  | _ => none

/-- Sets the radius of a turn that leaves straight on, and changes its side if asked. -/
def Statement.setRadius? (s : Statement α) (radius : α) (changesSide : Bool) :
    Option (Statement α) :=
  match s with
  | .arcContinue _ angle => some (.arcContinue radius (if changesSide then -angle else angle))
  | _ => none

/-- The statement after a drag of one of its handles, if the grip fits it. -/
def Grip.drag? (g : Grip α) (s : Statement α) (argument : Int) (point : Vec α) :
    Option (Statement α) :=
  match g with
  | .free _ => s.setPoint? argument point
  | .ray anchor direction _ => s.setLength? (rayLength anchor direction point)
  | .onArc center _ baseAngle angle keepsSign =>
    s.setAngle? (draggedAngle center baseAngle angle keepsSign point)
  | .radius start direction counterClockwise _ =>
    let signed := signedRadius start direction point
    -- A point on the other side of the tangent turns the sign of the angle.
    s.setRadius? (Scalar.abs signed) (decide (0 ≤ signed) != counterClockwise)

/-- Why a drag changes nothing. -/
inductive Ignored where
  /-- The program has no phase of this index. -/
  | noPhase (phase : Int)
  /-- The phase has no statement of this index. -/
  | noStatement (phase statement : Int)
  /-- The statement has no literal for this grip. -/
  | mismatch (grip statement : String) (address : Address)
  deriving DecidableEq, Repr

/-- The wording for the log. -/
def Ignored.message : Ignored → String
  | .noPhase phase => "Ignoring edit: no mover at index " ++ toString phase
  | .noStatement phase statement =>
    "Ignoring edit: mover " ++ toString phase ++ " has no statement " ++ toString statement
  | .mismatch grip statement a =>
    "Ignoring edit: " ++ grip ++ " handle does not match " ++ statement ++ " at ("
      ++ toString a.phase ++ ", " ++ toString a.statement ++ ", " ++ toString a.argument ++ ")"

/-- The element at an integer index, if it is one. -/
def elementAt? {β : Type} (xs : List β) (index : Int) : Option β :=
  if index < 0 then none else xs[index.toNat]?

/-- An index that is not negative finds what it does in the list. -/
theorem elementAt?_natCast {β : Type} (xs : List β) (index : Nat) :
    elementAt? xs index = xs[index]? := by
  unfold elementAt?
  rw [if_neg (by omega), Int.toNat_natCast]

/-- A negative index finds nothing. -/
theorem elementAt?_of_neg {β : Type} (xs : List β) (index : Int) (h : index < 0) :
    elementAt? xs index = none := by
  unfold elementAt?
  rw [if_pos h]

namespace Program

/-- A program with the statement at an address replaced. -/
def setStatement (p : Program α) (phase statement : Nat) (s : Statement α) : Program α :=
  ⟨p.phases.modify phase fun ph =>
    { ph with statements := ph.statements.set statement s }⟩

/-- The program after a drag of a handle to a point, or why there is none. -/
def edit (p : Program α) (h : Handle α) (point : Vec α) : Except Ignored (Program α) :=
  let a := h.address
  match elementAt? p.phases a.phase with
  | none => .error (.noPhase a.phase)
  | some ph =>
    match elementAt? ph.statements a.statement with
    | none => .error (.noStatement a.phase a.statement)
    | some s =>
      match h.grip.drag? s a.argument point with
      | none => .error (.mismatch h.grip.kind s.kind a)
      -- Both indices were found, so they are not negative.
      | some s' => .ok (p.setStatement a.phase.toNat a.statement.toNat s')

/-- The program after a drag; a drag that does not fit leaves it as it is. -/
def change (p : Program α) (h : Handle α) (point : Vec α) : Program α :=
  match p.edit h point with
  | .ok edited => edited
  | .error _ => p

end Program

end PlanarMotion
