import PlanarMotion.Build.PathBuilder
import PlanarMotion.Mover

/-!
# Building Movers

A mover builder chains legs and hands the cursor at the end of one to the next. A
program is compiled by adding its phases in order, so the path of every phase starts
where the one before it ended.

## Main definitions

* `MoverBuilder`: A cursor and the legs built so far.
* `MoverBuilder.phase`: Adds a leg.
* `Program.compile`: The mover of a program.
* `Program.drawable`: Whether compiling needs no sine of an infinite angle.
-/

namespace PlanarMotion

variable {α : Type} [Scalar α]

/-- A cursor and the legs built so far, in order. -/
structure MoverBuilder (α : Type) [Scalar α] where
  /-- Where the next leg starts. -/
  cursor : Pose α
  /-- The legs built so far. -/
  legs : List (Leg α)

namespace MoverBuilder

/-- A builder without legs. -/
def ofCursor (cursor : Pose α) : MoverBuilder α :=
  ⟨cursor, []⟩

/-- Adds a leg whose path has been drawn from the cursor. -/
def phase (b : MoverBuilder α) (duration : α) (easing : Easing) (drawn : PathBuilder α) :
    MoverBuilder α :=
  ⟨drawn.cursor, b.legs ++ [⟨drawn.build, duration, easing⟩]⟩

/-- Adds the leg of a phase of a program. -/
def addPhase (b : MoverBuilder α) (p : Phase α) : MoverBuilder α :=
  b.phase p.duration p.method.easing ((PathBuilder.ofCursor b.cursor).drawAll p.statements)

/-- The legs as one mover. -/
def build (b : MoverBuilder α) : Mover α :=
  .sequence (b.legs.map .leg)

end MoverBuilder

namespace Program

/-- The builder after all phases of a program. -/
def built (p : Program α) : MoverBuilder α :=
  p.phases.foldl MoverBuilder.addPhase (MoverBuilder.ofCursor Pose.origin)

/-- The mover of a program. -/
def compile (p : Program α) : Mover α :=
  p.built.build

/-- Whether phases can be drawn from a cursor without the sine of an infinite angle. -/
def drawableFrom (cursor : Pose α) : List (Phase α) → Bool
  | [] => true
  | phase :: rest =>
    let b := PathBuilder.ofCursor cursor
    b.definesAll phase.statements && drawableFrom (b.drawAll phase.statements).cursor rest

/-- Whether a program can be drawn without the sine of an infinite angle. -/
def drawable (p : Program α) : Bool :=
  drawableFrom Pose.origin p.phases

/-- The builder after all phases, unless one turns to an infinite angle. -/
def built? (p : Program α) : Except DomainError (MoverBuilder α) :=
  DomainError.guard p.drawable p.built

/-- The mover of a program, unless it turns to an infinite angle. -/
def compile? (p : Program α) : Except DomainError (Mover α) :=
  DomainError.guard p.drawable p.compile

end Program

end PlanarMotion
