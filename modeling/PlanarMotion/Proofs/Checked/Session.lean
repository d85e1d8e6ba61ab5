import PlanarMotion.Proofs.Checked.Drawing
import PlanarMotion.Proofs.Checked.Playback
import PlanarMotion.Proofs.Handle.Frame

/-!
# Editing Without Faults

Coordinates, radii and lengths may overflow while a program is edited, and may stop being
numbers. Angles never become infinite. That is the invariant here, and it is about angles alone: a
literal angle is calm if it is not infinite.

An edit keeps it because an angle is only ever changed in three ways. It is turned to the other
side, the sweep that stands for a sign held back is written, or what wrapping leaves is added to
the angle that a handle holds. Wrapped angles are small. If the handle holds an infinite angle,
then the difference to be wrapped has no number, and neither has the sum.

Everything that takes a sine then takes it of something calm. The angles at which an arc starts
are directions, so they are small as well; an end is a start and a literal; and a place between
them is the start and a part of the difference. No bound on where the arc is or how long it is
enters into this.

## Main definitions

* `Statement.angle?`: The angle by which a statement turns.
* `Program.CalmAngles`: No angle of a program is infinite.
* `Program.changes`: A program after several drags.
* `Program.Answers`: Whatever a program is asked for, there is an answer without a fault.

## Theorems

* `calm_drag`, `calmAngles_change`, `calmAngles_changes`: The invariant along a session.
* `drawable_of_calm`, `defined_of_calm`, `drawable_of_mem_handles`: What calm angles are good for.
* `answers_of_calm`: A program of calm angles has all answers.
* `changes_eq`: Drags have answers in any case.
-/

namespace PlanarMotion

open PlanarMotion.Scalar

/-- The angle by which a statement turns, if it does. -/
def Statement.angle? {α : Type} : Statement α → Option α
  | .arc _ angle => some angle
  | .arcContinue _ angle => some angle
  | _ => none

variable {α : Type} [Scalar α]

/-- The angle of a statement is not infinite. -/
def Statement.CalmAngle (s : Statement α) : Prop :=
  ∀ angle ∈ s.angle?, Calm angle

/-- No angle of a program is infinite. -/
def Program.CalmAngles (p : Program α) : Prop :=
  ∀ phase ∈ p.phases, ∀ s ∈ phase.statements, s.CalmAngle

/-- A program after several drags. -/
def Program.changes (p : Program α) (drags : List (Handle α × Vec α)) : Program α :=
  drags.foldl (fun p drag => p.change drag.1 drag.2) p

/-- Several drags, with faults. -/
def Checked.changes (p : Program α) (drags : List (Handle α × Vec α)) :
    Except Fault (Program α) :=
  drags.foldlM (fun p drag => Checked.change p drag.1 drag.2) p

/-- Whatever a program is asked for, there is an answer, and no operation behind it faults. -/
structure Program.Answers (p : Program α) : Prop where
  /-- It has a mover. -/
  compile? : p.compile? = .ok p.compile
  /-- Compiling it does not fault. -/
  compile : Checked.compile p = .ok p.compile
  /-- Its mover has a sample at every time. -/
  sample? : ∀ time, p.compile.sample? time = .ok (p.compile.sample time)
  /-- Sampling does not fault. -/
  sample : ∀ time, (Checked.playback p.compile).sample time = .ok (p.compile.sample time)
  /-- It has handles. -/
  handles? : p.handles? = .ok p.handles
  /-- Listing them does not fault. -/
  handles : Checked.handles p = .ok p.handles
  /-- Every handle has a place. -/
  position? : ∀ h ∈ p.handles, h.position? = .ok h.position
  /-- Placing it does not fault. -/
  position : ∀ h ∈ p.handles, Checked.position h = .ok h.position

/-- A drag sets a calm angle, whatever angle the handle holds. -/
theorem calm_draggedAngle (htame : Tame α) (center : Vec α) (baseAngle angle : α)
    (keepsSign : Bool) (point : Vec α) :
    Calm (draggedAngle center baseAngle angle keepsSign point) := by
  -- What wrapping leaves is small, and an infinite angle leaves nothing to be wrapped.
  have hsum : Calm (angle + wrapAngle ((point - center).angle - (baseAngle + angle))) := by
    by_cases hangle : Calm angle
    · exact htame.calm_add _ _ hangle (htame.within_wrapAngle _)
    · exact htame.calm_turned _ _ _ hangle (htame.within_atan2 _ _)
  unfold draggedAngle
  simp only
  split
  · split
    -- A sign that is held back writes the sweep that stands for it.
    · exact htame.calm_minimalSweep
    · split
      · exact htame.calm_neg _ htame.calm_minimalSweep
      · exact hsum
  · exact hsum

/-- A drag leaves a calm angle if there was one. -/
theorem calm_drag (htame : Tame α) (g : Grip α) (s s' : Statement α) (argument : Int)
    (point : Vec α) (hs : s.CalmAngle) (h : g.drag? s argument point = some s') :
    s'.CalmAngle := by
  cases g with
  | free position =>
      -- Points are no angles, and the statement keeps the one it has.
      have hangle : s'.angle? = s.angle? := by
        cases s <;> grind [Grip.drag?, Statement.setPoint?, Statement.angle?]
      rw [Statement.CalmAngle, hangle]
      exact hs
  | ray anchor direction length =>
      have hangle : s'.angle? = s.angle? := by
        cases s <;> grind [Grip.drag?, Statement.setLength?, Statement.angle?]
      rw [Statement.CalmAngle, hangle]
      exact hs
  | onArc center distance baseAngle angle keepsSign =>
      have hangle : s'.angle? = some (draggedAngle center baseAngle angle keepsSign point) := by
        cases s <;> grind [Grip.drag?, Statement.setAngle?, Statement.angle?]
      rw [Statement.CalmAngle, hangle]
      intro dragged hdragged
      -- The angle is written anew, so nothing is asked of the one before.
      rw [← Option.mem_some_iff.mp hdragged]
      exact calm_draggedAngle htame center baseAngle angle keepsSign point
  | radius start direction counterClockwise distance =>
      cases s with
      | arcContinue radius angle =>
          -- A radius may turn its angle to the other side, which is as calm.
          have hcalm : Calm angle := hs angle rfl
          have hs' := Option.some.inj h
          rw [← hs']
          intro turned hturned
          rw [← Option.mem_some_iff.mp hturned]
          split
          · exact htame.calm_neg _ hcalm
          · exact hcalm
      | _ => cases h

/-- An edit keeps all angles calm. -/
theorem calmAngles_change (htame : Tame α) (p : Program α) (h : Handle α) (point : Vec α)
    (hp : p.CalmAngles) : (p.change h point).CalmAngles := by
  rcases change_eq p h point with hsame | ⟨site, s, s', rfl, -, hdrag, hchange⟩
  · rw [hsame]
    exact hp
  -- The statements around the edited one are as they were.
  · rw [hchange]
    simp only [Program.CalmAngles, Site.fill, Site.phase, List.forall_mem_append,
      List.forall_mem_cons] at hp ⊢
    exact ⟨hp.1, ⟨hp.2.1.1, calm_drag htame _ _ _ _ _ hp.2.1.2.1 hdrag, hp.2.1.2.2⟩, hp.2.2⟩

/-- So do several. -/
theorem calmAngles_changes (htame : Tame α) (p : Program α) (drags : List (Handle α × Vec α))
    (hp : p.CalmAngles) : (p.changes drags).CalmAngles := by
  induction drags generalizing p with
  | nil => exact hp
  | cons drag drags ih => exact ih _ (calmAngles_change htame p drag.1 drag.2 hp)

/-- Drags have answers in any case. -/
theorem changes_eq (htame : Tame α) (p : Program α) (drags : List (Handle α × Vec α)) :
    Checked.changes p drags = .ok (p.changes drags) := by
  unfold Checked.changes
  induction drags generalizing p with
  | nil => rfl
  | cons drag drags ih =>
      rw [List.foldlM_cons, Checked.change_eq htame]
      exact ih (p.change drag.1 drag.2)

section Drawing

/-- The end of a turn by a calm angle is calm: it starts at a direction. -/
theorem calm_endAngle (htame : Tame α) (cursor : Pose α) (center : Vec α) (angle : α)
    (h : Calm angle) : Calm (arcAround cursor center angle).endAngle :=
  htame.calm_add_left _ _ h (htame.within_atan2 _ _)

/-- A turn by a calm angle takes its two sines of calm angles. -/
theorem definesArc_of_calm (htame : Tame α) (b : PathBuilder α) (center : Vec α) (angle : α)
    (h : Calm angle) : b.definesArc center angle = true := by
  have hend := calm_endAngle htame b.cursor center angle h
  have hheading : Calm (PathBuilder.headingAfter (arcAround b.cursor center angle) angle) := by
    -- The heading is a quarter turn from the end, to one side or the other.
    refine htame.calm_add _ _ hend ?_
    split
    · exact htame.within_quarterTurn
    · exact htame.within_neg_quarterTurn
  unfold Calm at hend hheading
  rw [PathBuilder.definesArc, hend, hheading]
  rfl

theorem defines_of_calm (htame : Tame α) (b : PathBuilder α) (s : Statement α)
    (h : s.CalmAngle) : b.defines s = true := by
  cases s with
  | arc center angle => exact definesArc_of_calm htame b center angle (h angle rfl)
  | arcContinue radius angle => exact definesArc_of_calm htame b _ angle (h angle rfl)
  | _ => rfl

/-- Statements of calm angles are drawn, wherever they start. -/
theorem definesAll_of_calm (htame : Tame α) (b : PathBuilder α) (statements : List (Statement α))
    (h : ∀ s ∈ statements, s.CalmAngle) : b.definesAll statements = true := by
  induction statements generalizing b with
  | nil => rfl
  | cons s rest ih =>
      rw [List.forall_mem_cons] at h
      rw [PathBuilder.definesAll, defines_of_calm htame b s h.1, ih _ h.2]
      rfl

/-- So are phases of them. -/
theorem drawableFrom_of_calm (htame : Tame α) (cursor : Pose α) (phases : List (Phase α))
    (h : ∀ phase ∈ phases, ∀ s ∈ phase.statements, s.CalmAngle) :
    Program.drawableFrom cursor phases = true := by
  induction phases generalizing cursor with
  | nil => rfl
  | cons phase rest ih =>
      rw [List.forall_mem_cons] at h
      rw [Program.drawableFrom, definesAll_of_calm htame _ _ h.1, ih _ h.2]
      rfl

theorem drawable_of_calm (htame : Tame α) (p : Program α) (h : p.CalmAngles) :
    p.drawable = true :=
  drawableFrom_of_calm htame Pose.origin p.phases h

end Drawing

section Playing

/-- Every pose of a curve is without the sine of an infinite angle. -/
def Curve.Defined (c : Curve α) : Prop :=
  ∀ t, c.defined t = true

/-- The angles of an arc that starts at a direction and sweeps a calm angle are calm: each is
    the start and a part of the difference. -/
theorem defined_arcAround (htame : Tame α) (cursor : Pose α) (center : Vec α) (angle : α)
    (h : Calm angle) : (arcAround cursor center angle).curve.Defined := by
  intro t
  have hstart := htame.within_atan2 (cursor.position - center).y (cursor.position - center).x
  have hcalm : Calm ((arcAround cursor center angle).angleAt t) := by
    unfold Arc.angleAt
    cases hzero : (arcAround cursor center angle).length == 0 with
    | true =>
        simp only [hzero, if_true]
        -- An arc without length stays at its start.
        exact htame.calm_of_within _ hstart
    | false =>
        simp only [hzero, Bool.false_eq_true, if_false]
        exact htame.calm_add_left _ _ (htame.calm_mul _ _
          (htame.calm_sub _ _ (calm_endAngle htame cursor center angle h) hstart)
          (htame.within_part t _ hzero)) hstart
  unfold Calm at hcalm
  unfold Arc.curve
  simp only [hcalm, Bool.not_false]

/-- A chain asks one of its children. -/
theorem mem_of_answerer? (c : Chain α) (t : α) (child : Curve α) (offset : α)
    (h : c.answerer? t = some (child, offset)) : child ∈ c.children := by
  -- All three ways to ask go through a lookup among the children.
  have hmem : ∀ (index : Nat) (place : Curve α → α),
      (c.children.toArray[index]?.map fun child => (child, place child)) = some (child, offset) →
        child ∈ c.children := by
    intro index place hfound
    rcases Option.map_eq_some_iff.mp hfound with ⟨found, hget, heq⟩
    rw [← (Prod.mk.inj heq).1]
    exact List.mem_of_getElem? (List.getElem?_toArray.symm.trans hget)
  unfold Chain.answerer? Chain.answererAmong? at h
  split at h
  · cases h
  · split at h
    · exact hmem 0 (fun _ => 0) h
    · split at h
      · exact hmem _ (·.length) h
      · rcases Option.bind_eq_some_iff.mp h with ⟨place, -, hfound⟩
        exact hmem place.1 (fun _ => place.2) hfound

/-- A chain has all poses if its children have. -/
theorem defined_chain (c : Chain α) (h : ∀ child ∈ c.children, child.Defined) :
    c.curve.Defined := by
  intro t
  have hmem := mem_of_answerer? c t
  unfold Chain.answerer? at hmem
  unfold Chain.curve
  cases hasked : Chain.answererAmong? c.children.toArray c.marks c.length t with
  | none => simp only [hasked]
  | some asked =>
      simp only [hasked]
      exact h _ (hmem asked.1 asked.2 hasked) asked.2

theorem defined_polyline (p : Polyline α) : p.curve.Defined := by
  refine defined_chain p.chain (fun child hchild => ?_)
  rcases List.mem_map.mp hchild with ⟨s, -, rfl⟩
  exact fun _ => rfl

/-- The pieces that a statement adds have all poses. -/
theorem defined_draw (htame : Tame α) (b : PathBuilder α) (s : Statement α) (hs : s.CalmAngle)
    (hb : ∀ piece ∈ b.pieces, piece.curve.Defined) :
    ∀ piece ∈ (b.draw s).pieces, piece.curve.Defined := by
  -- A statement adds one piece at most, behind those that are there.
  have hpush : ∀ (piece : Path α) (position direction : Vec α), piece.curve.Defined →
      ∀ other ∈ (b.push piece position direction).pieces, other.curve.Defined := by
    intro piece position direction hpiece other hother
    rcases List.mem_append.mp hother with hold | hnew
    · exact hb other hold
    · rw [List.mem_singleton.mp hnew]
      exact hpiece
  cases s with
  | start point => exact hb
  | line stop => exact hpush _ _ _ (fun _ => rfl)
  | lineContinue length => exact hpush _ _ _ (fun _ => rfl)
  | arc center angle =>
      exact hpush _ _ _ (defined_arcAround htame b.cursor center angle (hs angle rfl))
  | arcContinue radius angle =>
      exact hpush _ _ _ (defined_arcAround htame b.cursor _ angle (hs angle rfl))
  | bezier c1 c2 stop segments => exact hpush _ _ _ (defined_polyline _)
  | bezierContinue c1Offset c2 stop segments => exact hpush _ _ _ (defined_polyline _)

/-- So have those that several statements add. -/
theorem defined_drawAll (htame : Tame α) (b : PathBuilder α) (statements : List (Statement α))
    (hs : ∀ s ∈ statements, s.CalmAngle) (hb : ∀ piece ∈ b.pieces, piece.curve.Defined) :
    ∀ piece ∈ (b.drawAll statements).pieces, piece.curve.Defined := by
  induction statements generalizing b with
  | nil => exact hb
  | cons s rest ih =>
      rw [List.forall_mem_cons] at hs
      exact ih _ hs.2 (defined_draw htame b s hs.1 hb)

/-- The path of a phase has all poses. -/
theorem defined_build (b : PathBuilder α) (hb : ∀ piece ∈ b.pieces, piece.curve.Defined) :
    b.build.curve.Defined := by
  refine defined_chain ⟨Path.curves b.pieces, b.cursor⟩ (fun child hchild => ?_)
  simp only [Path.curves_eq_map] at hchild
  rcases List.mem_map.mp hchild with ⟨piece, hpiece, rfl⟩
  exact hb piece hpiece

/-- The legs that phases add have paths with all poses. -/
theorem defined_legs (htame : Tame α) (b : MoverBuilder α) (phases : List (Phase α))
    (hphases : ∀ phase ∈ phases, ∀ s ∈ phase.statements, s.CalmAngle)
    (hb : ∀ l ∈ b.legs, l.path.curve.Defined) :
    ∀ l ∈ (phases.foldl MoverBuilder.addPhase b).legs, l.path.curve.Defined := by
  induction phases generalizing b with
  | nil => exact hb
  | cons phase rest ih =>
      rw [List.forall_mem_cons] at hphases
      -- The new leg is the last one.
      refine ih (b.addPhase phase) hphases.2 (fun l hl => ?_)
      rcases List.mem_append.mp hl with hold | hnew
      · exact hb l hold
      · rw [List.mem_singleton.mp hnew]
        exact defined_build _ (defined_drawAll htame _ _ hphases.1 (fun _ hpiece => nomatch hpiece))

/-- A sequence asks one of its motions. -/
theorem defined_sequence (motions : List (Motion α))
    (h : ∀ m ∈ motions, ∀ time, m.defined time = true) (time : α) :
    (Motion.sequence motions).defined time = true := by
  unfold Motion.sequence
  -- An empty sequence rests, and any other asks the motion that owns the time.
  cases hget : motions[(locate (motions.map (·.duration)) time).1]? with
  | none => simp only [hget]
  | some m =>
      simp only [hget]
      exact h m (List.mem_of_getElem? hget) _

/-- The mover of a program of calm angles has a sample at every time. -/
theorem defined_of_calm (htame : Tame α) (p : Program α) (h : p.CalmAngles) (time : α) :
    p.compile.motion.defined time = true := by
  have hlegs := defined_legs htame (MoverBuilder.ofCursor Pose.origin) p.phases h
    (fun _ hl => nomatch hl)
  refine defined_sequence (Mover.motions (p.built.legs.map .leg)) (fun m hm t => ?_) time
  rw [Mover.motions_eq_map, List.map_map] at hm
  rcases List.mem_map.mp hm with ⟨l, hl, rfl⟩
  exact hlegs l hl _

end Playing

section Placing

/-- The handles of a statement of a calm angle have places. -/
theorem drawable_of_mem_statement (htame : Tame α) (s : Statement α) (cursor : Pose α)
    (address : Address) (hs : s.CalmAngle) (h : Handle α) (hmem : h ∈ s.handles cursor address) :
    h.grip.drawable = true := by
  -- Only the handle at the end of a turn stands at an angle: a direction and the sweep.
  have honArc : ∀ (offset : Vec α) (angle : α), Calm angle →
      (!isInfinite (offset.angle + angle)) = true := by
    intro offset angle hangle
    have hcalm := htame.calm_add_left _ _ hangle (htame.within_atan2 offset.y offset.x)
    unfold Calm at hcalm
    rw [Vec.angle, hcalm]
    rfl
  cases s with
  | arc center angle =>
      rcases List.mem_cons.mp hmem with rfl | hrest
      · rfl
      · rw [List.mem_singleton.mp hrest]
        exact honArc _ angle (hs angle rfl)
  | arcContinue radius angle =>
      rcases List.mem_cons.mp hmem with rfl | hrest
      · rfl
      · rw [List.mem_singleton.mp hrest]
        exact honArc _ angle (hs angle rfl)
  | start point | line stop | lineContinue length =>
      rw [List.mem_singleton.mp hmem]
      rfl
  | bezier c1 c2 stop segments | bezierContinue c1Offset c2 stop segments =>
      simp only [Statement.handles, List.mem_cons, List.not_mem_nil, or_false] at hmem
      rcases hmem with rfl | rfl | rfl <;> rfl

/-- Every handle that statements list belongs to one of them. -/
theorem exists_of_mem_statementHandles (phase index : Nat) (b : PathBuilder α)
    (statements : List (Statement α)) (h : Handle α)
    (hmem : h ∈ statementHandles phase index b statements) :
    ∃ s ∈ statements, ∃ cursor address, h ∈ s.handles cursor address := by
  induction statements generalizing index b with
  | nil => cases hmem
  | cons s rest ih =>
      rcases List.mem_append.mp hmem with hown | hlater
      · exact ⟨s, List.mem_cons_self, _, _, hown⟩
      · rcases ih _ _ hlater with ⟨other, hother, hhandle⟩
        exact ⟨other, List.mem_cons_of_mem s hother, hhandle⟩

/-- Every handle belongs to a statement. -/
theorem exists_of_mem_phaseHandles (index : Nat) (cursor : Pose α) (phases : List (Phase α))
    (h : Handle α) (hmem : h ∈ phaseHandles index cursor phases) :
    ∃ phase ∈ phases, ∃ s ∈ phase.statements, ∃ cursor address,
      h ∈ s.handles cursor address := by
  induction phases generalizing index cursor with
  | nil => cases hmem
  | cons phase rest ih =>
      rcases List.mem_append.mp hmem with hown | hlater
      · exact ⟨phase, List.mem_cons_self, exists_of_mem_statementHandles _ _ _ _ h hown⟩
      · rcases ih _ _ hlater with ⟨other, hother, hhandle⟩
        exact ⟨other, List.mem_cons_of_mem phase hother, hhandle⟩

/-- The handles of a program of calm angles have places. -/
theorem drawable_of_mem_handles (htame : Tame α) (p : Program α) (hp : p.CalmAngles)
    (h : Handle α) (hmem : h ∈ p.handles) : h.grip.drawable = true := by
  rcases exists_of_mem_phaseHandles 0 Pose.origin p.phases h hmem
    with ⟨phase, hphase, s, hs, cursor, address, hhandle⟩
  exact drawable_of_mem_statement htame s cursor address (hp phase hphase s hs) h hhandle

end Placing

/-- A program of calm angles has all answers. -/
theorem answers_of_calm (htame : Tame α) (p : Program α) (h : p.CalmAngles) : p.Answers := by
  have hcompile : p.compile? = .ok p.compile := by
    rw [Program.compile?, drawable_of_calm htame p h]
    rfl
  have hsample : ∀ time, p.compile.sample? time = .ok (p.compile.sample time) := by
    intro time
    rw [Mover.sample?, Motion.sample?, defined_of_calm htame p h]
    rfl
  have hhandles : p.handles? = .ok p.handles := by
    rw [Program.handles?, drawable_of_calm htame p h]
    rfl
  have hposition : ∀ handle ∈ p.handles, handle.position? = .ok handle.position := by
    intro handle hmem
    rw [Handle.position?, drawable_of_mem_handles htame p h handle hmem]
    rfl
  -- The functions that may fault are the guarded ones, and the guards hold.
  refine ⟨hcompile, ?_, hsample, ?_, hhandles, ?_, hposition, ?_⟩
  · rw [Checked.compile_eq htame, hcompile]
    rfl
  · intro time
    rw [Checked.playback_eq htame]
    exact congrArg refused (hsample time)
  · rw [Checked.handles_eq htame, hhandles]
    rfl
  · intro handle hmem
    rw [Checked.position_eq, hposition handle hmem]
    rfl

end PlanarMotion
