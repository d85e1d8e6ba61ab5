import PlanarMotion.Handle.Drag
import PlanarMotion.Handle.Projection
import PlanarMotion.Proofs.Checked.Basic

/-!
# Drawing and Dragging Without Hidden Faults

Compiling a program, listing its handles, placing a handle and dragging one, written on
operations that may fault. As with playback, the answers are those of the total functions and
the only refusal is that of an infinite angle.

A drag is refused for nothing at all, whatever handle is dragged and wherever to. The handle may
have been written by hand and hold numbers that no program has: a drag only normalizes vectors,
which asks for the length first, wraps an angle by a full turn, and turns a direction by a
quarter.

A polyline carries a proof about its vertices. So where a curve is drawn, its vertices and chords
are computed with faults first, and the piece is made once they are there.

## Main definitions

* `Checked.draw`, `Checked.drawAll`: A statement and several.
* `Checked.compile`, `Checked.handles`: The mover of a program and its handles.
* `Checked.position`, `Checked.change`: Where a handle is, and the program after a drag.

## Theorems

* `Checked.samples_eq`, `Checked.derivative_eq`: A curve never faults.
* `Checked.draw_eq`, `Checked.compile_eq`, `Checked.handles_eq`, `Checked.position_eq`: What is
  refused is the sine of an infinite angle.
* `Checked.change_eq`: A drag is never refused.
-/

namespace PlanarMotion

namespace Checked

open PlanarMotion.Scalar

variable {α : Type} [Scalar α]

/-- A number of rounds of interpolation between neighbours. -/
def collapse (t : α) : Nat → List (Vec α) → Except Fault (List (Vec α))
  | 0, points => .ok points
  | rounds + 1, points => do collapse t rounds (← neighbours (fun a b => a.lerp b t) points)

/-- The point of a curve at a parameter. -/
def evaluate (b : Bezier α) (t : α) : Except Fault (Vec α) :=
  if b.points.isEmpty then .ok Vec.zero
  else do element (← collapse t (b.points.length - 1) b.points) 0

/-- The derivative of a curve at a parameter. -/
def derivative (b : Bezier α) (t : α) : Except Fault (Vec α) := do
  let degree : α := ofNat (b.points.length - 1)
  evaluate ⟨← neighbours (fun p q => (q - p).scale degree) b.points⟩ t

/-- The points at equally spaced parameters. -/
def samples (b : Bezier α) (segments : Nat) : Except Fault (List (Vec α)) :=
  (List.range (segments + 1)).mapM fun i => do
    evaluate b (← quotient (ofNat i) (ofNat segments))

/-- Draws a line. -/
def line (b : PathBuilder α) (stop : Vec α) : Except Fault (PathBuilder α) := do
  let direction ← normalized (stop - b.cursor.position)
  return b.push (.line ⟨b.cursor.position, stop⟩) stop direction

/-- Turns around a center. -/
def arc (b : PathBuilder α) (center : Vec α) (angle : α) : Except Fault (PathBuilder α) := do
  let turn := arcAround b.cursor center angle
  let offset ← ofAngle turn.endAngle turn.radius
  let direction ← ofAngle (PathBuilder.headingAfter turn angle) 1
  return b.push (.arc turn) (center + offset) direction

/-- Draws a curve as a number of chords. -/
def bezier (b : PathBuilder α) (c1 c2 stop : Vec α) (segments : Int) :
    Except Fault (PathBuilder α) := do
  let curve : Bezier α := ⟨[b.cursor.position, c1, c2, stop]⟩
  let vertices ← samples curve (max 1 segments.toNat)
  let chords ← neighbours LineSegment.mk vertices
  let _ ← chords.mapM fun s => normalized (s.stop - s.start)
  let _ ← element vertices 0
  let _ ← normalized (← derivative curve 0)
  let direction ← normalized (← derivative curve 1)
  return b.push (.polyline (.ofBezier curve segments)) stop direction

/-- Carries out one statement. -/
def draw (b : PathBuilder α) : Statement α → Except Fault (PathBuilder α)
  | .start point => .ok (b.start point)
  | .line stop => line b stop
  | .lineContinue length => line b (b.cursor.ahead length)
  | .arc center angle => arc b center angle
  | .arcContinue radius angle => arc b (arcCenter b.cursor radius angle) angle
  | .bezier c1 c2 stop segments => bezier b c1 c2 stop segments
  | .bezierContinue c1Offset c2 stop segments =>
    bezier b (b.cursor.ahead c1Offset) c2 stop segments

/-- Carries out statements in order. -/
def drawAll (b : PathBuilder α) (statements : List (Statement α)) :
    Except Fault (PathBuilder α) :=
  statements.foldlM draw b

/-- Adds the leg of a phase of a program. -/
def addPhase (b : MoverBuilder α) (p : Phase α) : Except Fault (MoverBuilder α) := do
  return b.phase p.duration p.method.easing
    (← drawAll (PathBuilder.ofCursor b.cursor) p.statements)

/-- The mover of a program. -/
def compile (p : Program α) : Except Fault (Mover α) := do
  return (← p.phases.foldlM addPhase (MoverBuilder.ofCursor Pose.origin)).build

/-- The handles of statements, and the builder after them. -/
def statementHandles (phase : Nat) : Nat → PathBuilder α → List (Statement α) →
    Except Fault (List (Handle α) × PathBuilder α)
  | _, b, [] => .ok ([], b)
  | index, b, s :: rest => do
    let (later, drawn) ← statementHandles phase (index + 1) (← draw b s) rest
    return (s.handles b.cursor ⟨phase, index, 0⟩ ++ later, drawn)

/-- The handles of phases. -/
def phaseHandles : Nat → Pose α → List (Phase α) → Except Fault (List (Handle α))
  | _, _, [] => .ok []
  | index, cursor, p :: rest => do
    let (own, drawn) ← statementHandles index 0 (PathBuilder.ofCursor cursor) p.statements
    return own ++ (← phaseHandles (index + 1) drawn.cursor rest)

/-- The handles of a program. -/
def handles (p : Program α) : Except Fault (List (Handle α)) :=
  phaseHandles 0 Pose.origin p.phases

/-- Where a handle is drawn. -/
def position (h : Handle α) : Except Fault (Vec α) :=
  match h.grip with
  | .free position => .ok position
  | .ray anchor direction length => .ok (anchor + direction.scale length)
  | .onArc center distance baseAngle angle _ => do
    return center + (← ofAngle (baseAngle + angle) distance)
  | .radius start direction counterClockwise distance => do
    let left := (← normalized direction).perpendicular
    return start + (if counterClockwise then left else -left).scale distance

/-- The same angle within half a turn of zero. -/
def wrapAngle (angle : α) : Except Fault α := do
  let wrapped ← remainder angle turn
  return if pi < wrapped then wrapped - turn else wrapped

/-- The vector turned by an angle. -/
def rotate (a : Vec α) (angle : α) : Except Fault (Vec α) := do
  let c ← cosine angle
  let s ← sine angle
  return ⟨a.x * c - a.y * s, a.x * s + a.y * c⟩

/-- The angle of a turn after its end was dragged to a point. -/
def draggedAngle (center : Vec α) (baseAngle angle : α) (keepsSign : Bool) (point : Vec α) :
    Except Fault α := do
  let target := (point - center).angle
  let dragged := angle + (← wrapAngle (target - (baseAngle + angle)))
  return if keepsSign then
    if 0 < angle ∧ dragged ≤ 0 then minimalSweep
    else if angle < 0 ∧ 0 ≤ dragged then -minimalSweep
    else dragged
  else dragged

/-- The statement after a drag of one of its handles, if the grip fits it. -/
def drag (g : Grip α) (s : Statement α) (argument : Int) (point : Vec α) :
    Except Fault (Option (Statement α)) :=
  match g with
  | .free _ => .ok (s.setPoint? argument point)
  | .ray anchor direction _ => do
    return s.setLength? ((point - anchor).dot (← normalized direction))
  | .onArc center _ baseAngle angle keepsSign => do
    return s.setAngle? (← draggedAngle center baseAngle angle keepsSign point)
  | .radius start direction counterClockwise _ => do
    let normal ← normalized (← rotate direction quarterTurn)
    let signed := (point - start).dot normal
    return s.setRadius? (Scalar.abs signed) (decide (0 ≤ signed) != counterClockwise)

/-- The program after a drag; a drag that does not fit leaves it as it is. -/
def change (p : Program α) (h : Handle α) (point : Vec α) : Except Fault (Program α) := do
  let a := h.address
  if a.phase < 0 ∨ p.phases.length ≤ a.phase then return p
  let phase ← element p.phases a.phase.toNat
  if a.statement < 0 ∨ phase.statements.length ≤ a.statement then return p
  let s ← element phase.statements a.statement.toNat
  match ← drag h.grip s a.argument point with
  | none => return p
  | some edited => return p.setStatement a.phase.toNat a.statement.toNat edited

/-- Rounds of interpolation look nothing up beyond a list. -/
theorem collapse_eq (t : α) (rounds : Nat) (points : List (Vec α)) :
    collapse t rounds points = .ok (Bezier.collapse t rounds points) := by
  induction rounds generalizing points with
  | zero => rfl
  | succ rounds ih =>
      rw [collapse, neighbours_eq, ok_bind, ih]
      rfl

/-- Evaluating a curve never faults: all rounds together leave one point. -/
theorem evaluate_eq (b : Bezier α) (t : α) : evaluate b t = .ok (b.evaluate t) := by
  unfold evaluate Bezier.evaluate
  rcases hpoints : b.points with - | ⟨point, rest⟩
  -- Without points the origin answers.
  · rfl
  -- As many rounds as there are neighbours leave one point, so the lookup finds it.
  · have hall := b.collapse_all t (by rw [hpoints]; exact List.cons_ne_nil _ _)
    rw [hpoints] at hall
    rw [collapse_eq, ok_bind, hall]
    rfl

/-- The derivative is a curve through the differences, so it does not fault either. -/
theorem derivative_eq (b : Bezier α) (t : α) : derivative b t = .ok (b.derivative t) := by
  unfold derivative
  simp only
  rw [neighbours_eq, ok_bind, evaluate_eq]
  rfl

/-- Sampling a curve never faults, since it has a chord. -/
theorem samples_eq (htame : Tame α) (b : Bezier α) (segments : Nat) (h : 0 < segments) :
    samples b segments = .ok (b.samples segments) := by
  refine mapM_eq _ _ _ (fun i _ => ?_)
  rw [quotient_eq _ _ (htame.ofNat_beq segments h), ok_bind, evaluate_eq]

theorem line_eq (b : PathBuilder α) (stop : Vec α) : line b stop = .ok (b.line stop) := by
  unfold line
  rw [normalized_eq]
  rfl

/-- A turn is refused exactly if one of its two angles is infinite. -/
theorem arc_eq (b : PathBuilder α) (center : Vec α) (angle : α) :
    arc b center angle = refused (DomainError.guard (b.definesArc center angle)
      (b.arc center angle)) := by
  unfold arc
  simp only
  rw [ofAngle_eq, ofAngle_eq]
  -- The end comes before the heading, so its guard is the outer one.
  refine refused_guard_bind _ _ _ _ _ ?_
  unfold Vec.ofAngle? DomainError.guard
  split <;> rfl

/-- Drawing a curve never faults. -/
theorem bezier_eq (htame : Tame α) (b : PathBuilder α) (c1 c2 stop : Vec α) (segments : Int) :
    bezier b c1 c2 stop segments = .ok (b.bezier c1 c2 stop segments) := by
  unfold bezier
  simp only
  rw [samples_eq htame _ _ (by omega), ok_bind, neighbours_eq, ok_bind,
    mapM_eq _ _ _ (fun s _ => normalized_eq _), ok_bind]
  -- There is at least one chord, and so a first vertex.
  rw [element_eq _ 0 _ (by
    rw [Bezier.samples, List.getElem?_map, List.getElem?_range (Nat.succ_pos _), Option.map_some])]
  simp only [derivative_eq, normalized_eq, ok_bind]
  rfl

/-- A statement is refused exactly if it turns to an infinite angle. -/
theorem draw_eq (htame : Tame α) (b : PathBuilder α) (s : Statement α) :
    draw b s = refused (b.draw? s) := by
  cases s with
  | start point => rfl
  | line stop => exact line_eq b stop
  | lineContinue length => exact line_eq b _
  | arc center angle => exact arc_eq b center angle
  | arcContinue radius angle => exact arc_eq b _ angle
  | bezier c1 c2 stop segments => exact bezier_eq htame b c1 c2 stop segments
  | bezierContinue c1Offset c2 stop segments => exact bezier_eq htame b _ c2 stop segments

/-- Statements are refused exactly if one of them is. -/
theorem drawAll_eq (htame : Tame α) (b : PathBuilder α) (statements : List (Statement α)) :
    drawAll b statements = refused (b.drawAll? statements) := by
  induction statements generalizing b with
  | nil => rfl
  | cons s rest ih =>
      unfold drawAll at ih ⊢
      rw [List.foldlM_cons, draw_eq htame]
      -- What the first statement is refused for comes before the rest.
      exact refused_guard_bind _ _ _ _ _ (ih (b.draw s))

/-- Phases are refused exactly if one of them is, from the cursor that it starts at. -/
theorem addPhases_eq (htame : Tame α) (b : MoverBuilder α) (phases : List (Phase α)) :
    phases.foldlM addPhase b = refused (DomainError.guard (Program.drawableFrom b.cursor phases)
      (phases.foldl MoverBuilder.addPhase b)) := by
  induction phases generalizing b with
  | nil => rfl
  | cons p rest ih =>
      rw [List.foldlM_cons, addPhase, drawAll_eq htame]
      -- The phase that has been drawn becomes a leg, which refuses nothing more.
      unfold PathBuilder.drawAll?
      rw [refused_guard_map]
      exact refused_guard_bind _ _ _ _ _ (ih (b.addPhase p))

/-- Compiling a program is refused exactly if it turns to an infinite angle. -/
theorem compile_eq (htame : Tame α) (p : Program α) : compile p = refused p.compile? := by
  unfold compile
  rw [addPhases_eq htame]
  exact refused_guard_map _ _ _

/-- The handles of statements are refused exactly if drawing these is. -/
theorem statementHandles_eq (htame : Tame α) (phase index : Nat) (b : PathBuilder α)
    (statements : List (Statement α)) : statementHandles phase index b statements
      = refused (DomainError.guard (b.definesAll statements)
        (PlanarMotion.statementHandles phase index b statements, b.drawAll statements)) := by
  induction statements generalizing index b with
  | nil => rfl
  | cons s rest ih =>
      rw [statementHandles, draw_eq htame]
      refine refused_guard_bind _ _ _ _ _ ?_
      rw [ih]
      -- Its own handles are put in front of the later ones, whose guard is left.
      exact refused_guard_map _ _ _

/-- The handles of phases are refused exactly if drawing these is. -/
theorem phaseHandles_eq (htame : Tame α) (index : Nat) (cursor : Pose α)
    (phases : List (Phase α)) : phaseHandles index cursor phases
      = refused (DomainError.guard (Program.drawableFrom cursor phases)
        (PlanarMotion.phaseHandles index cursor phases)) := by
  induction phases generalizing index cursor with
  | nil => rfl
  | cons p rest ih =>
      rw [phaseHandles, statementHandles_eq htame]
      refine refused_guard_bind _ _ _ _ _ ?_
      simp only
      rw [ih]
      exact refused_guard_map _ _ _

/-- Listing the handles of a program is refused exactly if it turns to an infinite angle. -/
theorem handles_eq (htame : Tame α) (p : Program α) : handles p = refused p.handles? :=
  phaseHandles_eq htame 0 Pose.origin p.phases

/-- Placing a handle is refused exactly if it stands at an infinite angle. -/
theorem position_eq (h : Handle α) : position h = refused h.position? := by
  unfold position Handle.position? Handle.position Grip.position Grip.drawable
  cases h.grip with
  | free position => rfl
  | ray anchor direction length => rfl
  | onArc center distance baseAngle angle keepsSign =>
      simp only
      -- Only this grip takes a sine of what it holds.
      rw [ofAngle_eq]
      exact refused_guard_map _ _ _
  | radius start direction counterClockwise distance =>
      simp only
      rw [normalized_eq]
      rfl

/-- Wrapping divides by a turn, which is no zero. -/
theorem wrapAngle_eq (htame : Tame α) (angle : α) :
    wrapAngle angle = .ok (Scalar.wrapAngle angle) := by
  unfold wrapAngle
  rw [remainder_eq _ _ htame.turn_beq]
  rfl

theorem draggedAngle_eq (htame : Tame α) (center : Vec α) (baseAngle angle : α)
    (keepsSign : Bool) (point : Vec α) : draggedAngle center baseAngle angle keepsSign point
      = .ok (PlanarMotion.draggedAngle center baseAngle angle keepsSign point) := by
  unfold draggedAngle
  simp only [wrapAngle_eq htame]
  rfl

theorem rotate_eq (a : Vec α) (angle : α) (h : Calm angle) :
    rotate a angle = .ok (a.rotate angle) := by
  unfold rotate
  rw [cosine_eq _ h, sine_eq _ h]
  rfl

/-- A drag of a grip never faults. The only angle that it takes a sine of is the quarter turn. -/
theorem drag_eq (htame : Tame α) (g : Grip α) (s : Statement α) (argument : Int)
    (point : Vec α) : drag g s argument point = .ok (g.drag? s argument point) := by
  have hquarter : Calm (quarterTurn : α) := htame.calm_of_within _ htame.within_quarterTurn
  cases g with
  | free position => rfl
  | ray anchor direction length =>
      rw [drag, normalized_eq]
      rfl
  | onArc center distance baseAngle angle keepsSign =>
      rw [drag, draggedAngle_eq htame]
      rfl
  | radius start direction counterClockwise distance =>
      -- The normal is the direction after a quarter of a turn.
      rw [drag, rotate_eq _ _ hquarter, ok_bind, normalized_eq]
      rfl

/-- An integer index that has been checked finds an element. -/
theorem element_of_index {β : Type} (xs : List β) (index : Int)
    (h : ¬ (index < 0 ∨ xs.length ≤ index)) :
    ∃ x, elementAt? xs index = some x ∧ element xs index.toNat = .ok x := by
  have hget := List.getElem?_eq_getElem (show index.toNat < xs.length by omega)
  refine ⟨_, ?_, element_eq _ _ _ hget⟩
  rw [elementAt?, if_neg (by omega), hget]

theorem elementAt?_eq_none {β : Type} (xs : List β) (index : Int)
    (h : index < 0 ∨ xs.length ≤ index) : elementAt? xs index = none := by
  by_cases hneg : index < 0
  · exact elementAt?_of_neg xs index hneg
  · rw [elementAt?, if_neg hneg, List.getElem?_eq_none_iff]
    omega

/-- A drag is never refused, whatever the handle holds. -/
theorem change_eq (htame : Tame α) (p : Program α) (h : Handle α) (point : Vec α) :
    change p h point = .ok (p.change h point) := by
  unfold change Program.change Program.edit
  simp only
  -- Both indices are checked before they are used, the statement's within its phase.
  by_cases hphase : h.address.phase < 0 ∨ p.phases.length ≤ h.address.phase
  · rw [if_pos hphase, elementAt?_eq_none _ _ hphase]
    rfl
  · rcases element_of_index _ _ hphase with ⟨phase, hfound, helement⟩
    rw [if_neg hphase, hfound, helement]
    simp only [ok_bind]
    by_cases hstatement : h.address.statement < 0 ∨
        phase.statements.length ≤ h.address.statement
    · rw [if_pos hstatement, elementAt?_eq_none _ _ hstatement]
      rfl
    · rcases element_of_index _ _ hstatement with ⟨s, hs, hselement⟩
      rw [if_neg hstatement, hs, hselement]
      simp only [ok_bind, drag_eq htame]
      cases h.grip.drag? s h.address.argument point with
      | none => rfl
      | some edited => rfl

end Checked

end PlanarMotion
