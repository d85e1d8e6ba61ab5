import PlanarMotion.Proofs.Handle.Landing
import PlanarMotion.Proofs.Motion.Continuity
import PlanarMotion.Proofs.Motion.Owners
import PlanarMotion.Proofs.Path.Answers

/-!
# Directions Have Length One

Over the real numbers a program heads in some direction at every time, whatever its statements, its
durations and its methods. The cursor does so in front of every statement and behind it, since a
piece without direction leaves it the old one and phases hand it on. The mover does, too, except
where it asks a line or a polyline without length, which have none to give.

A mover passes on what it is asked, as paths do: a sequence asks the phase that owns the time, and a
leg asks its path for a distance. So `Mover.answerer?` follows the question down to the leaf that
answers in the end, and each layer is directed because the one below is. The chain that a phase has
drawn rests at the cursor, and so it has a direction also if all its pieces are points.

## Main definitions

* `Mover.answerer?`: The leaf that answers for a time in the end.
* `Mover.Directed`: All poses of a mover are answered.
* `Program.drawnBefore`: The builder in front of a statement.

## Theorems

* `Mover.directed_leg`, `Mover.directed_sequence`: Movers are directed.
* `Statement.directed_piece`, `PathBuilder.directed_build`: What a builder draws is directed.
* `Program.directed_compile`: Programs are directed.
-/

namespace PlanarMotion

namespace Mover

section Question

variable {α : Type} [Scalar α]

mutual

/-- The leaf of a path that answers for a time in the end, and the distance that it is asked for.
    Nobody answers for a mover that rests. -/
def answerer? : Mover α → α → Option (Path α × α)
  | .leg l, time => l.path.answerer? (l.easing.progress (l.relativeTime time) * l.path.length)
  | .sequence movers, time =>
    answererOf? movers (locate (durations movers) time).1 (locate (durations movers) time).2

/-- The same, for the mover with an index. -/
def answererOf? : List (Mover α) → Nat → α → Option (Path α × α)
  | [], _, _ => none
  | mover :: _, 0, time => answerer? mover time
  | _ :: movers, i + 1, time => answererOf? movers i time

end

/-- An index asks the mover that it finds. -/
theorem answererOf?_eq_bind (movers : List (Mover α)) (i : Nat) (time : α) :
    answererOf? movers i time = movers[i]?.bind fun mover => mover.answerer? time := by
  induction movers generalizing i with
  | nil => rfl
  | cons mover movers ih =>
      cases i with
      | zero => rfl
      | succ i => rw [answererOf?, ih, List.getElem?_cons_succ]

end Question

/-- All poses of a mover are answered. -/
def Directed (m : Mover ℝ) : Prop :=
  ∀ t, Answered (m.sample t).pose (m.answerer? t)

/-- A leg asks its path. -/
theorem directed_leg (l : Leg ℝ) (h : l.path.Directed) : (Mover.leg l).Directed := by
  intro t
  have hpose : ((Mover.leg l).sample t).pose
      = l.path.pose (l.easing.progress (l.relativeTime t) * l.path.length) := rfl
  rw [hpose, answerer?]
  exact h _

/-- A sequence asks one of its movers. Without any it rests along the abscissa. -/
theorem directed_sequence (movers : List (Mover ℝ)) (h : ∀ m ∈ movers, m.Directed) :
    (Mover.sequence movers).Directed := by
  intro t
  by_cases hempty : movers = []
  · have hrest : ((Mover.sequence ([] : List (Mover ℝ))).sample t).pose = Pose.origin := rfl
    rw [hempty, hrest, answerer?, answererOf?]
    exact Answered.of_rest _ Pose.headed_origin
  -- With some there is always one to be asked.
  · rcases exists_asked movers t hempty with ⟨m, hm⟩
    rw [(motion_asked movers t m hm).1, answerer?, answererOf?_eq_bind, hm, Option.bind_some]
    exact h m (List.mem_of_getElem? hm) _

end Mover

/-- The piece of a statement is directed. -/
theorem Statement.directed_piece (s : Statement ℝ) (cursor : Pose ℝ) (piece : Path ℝ)
    (h : s.piece? cursor = some piece) : piece.Directed := by
  cases s with
  | start point => cases h
  | line stop | lineContinue length =>
      rw [← Option.some.inj h]
      exact Path.directed_line _
  | arc center angle | arcContinue radius angle =>
      rw [← Option.some.inj h]
      exact Path.directed_arc _
  | bezier c1 c2 stop segments | bezierContinue c1Offset c2 stop segments =>
      rw [← Option.some.inj h]
      exact Path.directed_polyline _

/-- The path that is drawn from a cursor with a direction rests at one. -/
theorem PathBuilder.directed_build (cursor : Pose ℝ) (ss : List (Statement ℝ))
    (h : cursor.Headed) : ((ofCursor cursor).drawAll ss).build.Directed :=
  Path.directed_chain _ _ (headed_drawAll _ ss h)
    (forall_pieces_drawAll Statement.directed_piece _ ss (List.forall_mem_nil _))

/-- The paths of all legs are directed. -/
theorem directed_phaseLegs (cursor : Pose ℝ) (phases : List (Phase ℝ)) (h : cursor.Headed) :
    ∀ l ∈ phaseLegs cursor phases, l.path.Directed := by
  induction phases generalizing cursor with
  | nil => exact List.forall_mem_nil _
  | cons phase rest ih =>
      -- The other phases are drawn from the cursor behind this one.
      rw [phaseLegs, List.forall_mem_cons]
      exact ⟨PathBuilder.directed_build cursor phase.statements h,
        ih _ (PathBuilder.headed_drawAll _ phase.statements h)⟩

namespace Program

/-- The builder in front of a statement: it starts where the phases in front have led, and has drawn
    the statements in front. -/
def drawnBefore {α : Type} [Scalar α] (front : List (Phase α)) (before : List (Statement α)) :
    PathBuilder α :=
  (PathBuilder.ofCursor (Program.mk front).built.cursor).drawAll before

/-- In front of every statement the cursor has a direction. -/
theorem headed_drawnBefore (front : List (Phase ℝ)) (before : List (Statement ℝ)) :
    (drawnBefore front before).cursor.Headed := by
  refine PathBuilder.headed_drawAll _ before ?_
  -- The mover builder hands on the cursor of the phases.
  have hcursor : (Program.mk front).built.cursor = phasesCursor Pose.origin front := by
    rw [built, foldl_addPhase]
    rfl
  rw [PathBuilder.ofCursor, hcursor]
  exact headed_phasesCursor _ front Pose.headed_origin

/-- Directions have length one. The cursor has one in front of every statement and behind it. At
    every time the mover has the pose of the leaf that it asks, or rests at a cursor, and its
    direction has length one; unless the leaf is a line or a polyline without length, whose direction
    may be the zero vector. -/
theorem directed_compile (p : Program ℝ) :
    (∀ front phase back before s after, p.phases = front ++ phase :: back →
      phase.statements = before ++ s :: after →
        (drawnBefore front before).cursor.Headed ∧
          ((drawnBefore front before).draw s).cursor.Headed) ∧
    p.compile.Directed := by
  constructor
  · intro front phase back before s after _ _
    have hcursor := headed_drawnBefore front before
    exact ⟨hcursor, PathBuilder.headed_draw _ s hcursor⟩
  · have hlegs : p.compile = .sequence ((phaseLegs Pose.origin p.phases).map .leg) := by
      rw [← p.parts_compile]
      rfl
    rw [hlegs]
    refine Mover.directed_sequence _ (List.forall_mem_map.mpr fun l hl => ?_)
    exact Mover.directed_leg l (directed_phaseLegs _ p.phases Pose.headed_origin l hl)

/-- A line without length, behind a wait and in front of a curve. -/
theorem directed_turnAndBack :
    ((drawnBefore (turnAndBack.phases.take 2) []).draw (.lineContinue 0)).cursor.Headed ∧
      Answered (turnAndBack.compile.sample 3).pose (turnAndBack.compile.answerer? 3) :=
  have hdirected := directed_compile turnAndBack
  ⟨(hdirected.1 (turnAndBack.phases.take 2) _ [] [] _ _ rfl rfl).2, hdirected.2 3⟩

end Program

end PlanarMotion
