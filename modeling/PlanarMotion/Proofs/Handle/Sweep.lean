import PlanarMotion.Proofs.Handle.Reach
import PlanarMotion.Proofs.Handle.Roles
import Mathlib.Logic.Relation

/-!
# Dragging the Ends of Turns

The end of a turn carries the angle of the turn, and a drag writes the nearest angle that reaches
the drag point. A turn that leaves straight on has its center on the side that the sign of its angle
says, and the sign is locked. So one drag keeps its side: either it is the end of this very turn that
is dragged, and the sign stays, or it is another one, and the turn is not touched. As a run of drags
goes on, each of them by a handle that is made anew, the turn keeps its side.

## Main definitions

* `EndDragged`: A program after a drag of the end of a turn.

## Theorems

* `Statement.argument_of_onArc`: The end of a turn carries its angle.
* `EndDragged.keeps_side`: A drag of any end keeps the sides of turns that leave straight on.
* `keeps_side_of_reflTransGen`: So does a run of drags.
* `end_drags`: All of it for a program.
-/

namespace PlanarMotion

section Grips

variable {center : Vec ℝ} {radius baseAngle angle : ℝ} {keepsSign : Bool}

/-- The handle at the end of a turn is for its angle, and carries it. -/
theorem Statement.argument_of_onArc (s : Statement ℝ) (cursor : Pose ℝ) (address : Address)
    (h : Handle ℝ) (hmem : h ∈ s.handles cursor address)
    (hgrip : h.grip = .onArc center radius baseAngle angle keepsSign) :
    elementAt? s.arguments h.address.argument = some (.number angle) := by
  cases s with
  | arc middle turn =>
      rcases List.mem_cons.mp hmem with rfl | hmem
      -- The center is dragged by another grip.
      · cases hgrip
      · rw [List.mem_singleton.mp hmem] at hgrip ⊢
        cases hgrip
        rfl
  | arcContinue wide turn =>
      rcases List.mem_cons.mp hmem with rfl | hmem
      · cases hgrip
      · rw [List.mem_singleton.mp hmem] at hgrip ⊢
        cases hgrip
        rfl
  | start _ | line _ | lineContinue _ =>
      rw [List.mem_singleton.mp hmem] at hgrip
      cases hgrip
  | bezier _ _ _ _ | bezierContinue _ _ _ _ =>
      simp only [handles, List.mem_cons, List.not_mem_nil, or_false] at hmem
      rcases hmem with rfl | rfl | rfl
      · cases hgrip
      · cases hgrip
      · cases hgrip

/-- The sign of a turn that leaves straight on is locked. -/
theorem Statement.grip_arcContinue (cursor : Pose ℝ) (address : Address) (radius angle : ℝ)
    (h : Handle ℝ) (hmem : h ∈ (Statement.arcContinue radius angle).handles cursor address)
    (hkind : h.grip.kind = "OnArc") :
    h.grip = .onArc (arcCenter cursor radius angle) radius
      (cursor.position - arcCenter cursor radius angle).angle angle true := by
  rcases List.mem_cons.mp hmem with rfl | hmem
  · have hname : "Radius" = "OnArc" := hkind
    exact absurd hname (by decide)
  · rw [List.mem_singleton.mp hmem]

end Grips

/-- A program after a drag of the end of a turn, by a handle that it had. -/
def EndDragged (p q : Program ℝ) : Prop :=
  ∃ h ∈ p.handles, h.grip.kind = "OnArc" ∧ ∃ point, q = p.change h point

-- The turn is either the one whose end is dragged, and then the sign of its angle is locked, or it
-- is one at another address, and then it is not touched.
theorem EndDragged.keeps_side (p q : Program ℝ) (hdragged : EndDragged p q) (a : Address)
    (radius angle : ℝ) (hs : p.statementAt? a = some (.arcContinue radius angle))
    (hangle : angle ≠ 0) : ∃ angle', q.statementAt? a = some (.arcContinue radius angle') ∧
      SignType.sign angle' = SignType.sign angle := by
  rcases hdragged with ⟨h, hmem, hkind, point, rfl⟩
  by_cases hat : a.phase = h.address.phase ∧ a.statement = h.address.statement
  · rcases exists_site_of_mem p h hmem with ⟨site, s, rfl, haddress, hown⟩
    have hsite : a = site.address a.argument := by
      rcases a with ⟨phase, statement, argument⟩
      rw [haddress] at hat
      rw [Site.address, Address.mk.injEq]
      exact ⟨hat.1, hat.2, rfl⟩
    rw [hsite, site.statementAt?_fill, Option.some.injEq] at hs
    -- The statement of the handle is the turn itself.
    rw [hs] at hown ⊢
    have hgrip := Statement.grip_arcContinue _ _ radius angle h hown hkind
    have hdrag : h.grip.drag? (.arcContinue radius angle) h.address.argument point
        = some (.arcContinue radius (draggedAngle (arcCenter site.cursor radius angle)
          (site.cursor.position - arcCenter site.cursor radius angle).angle angle true point)) := by
      rw [hgrip]
      rfl
    rw [site.change_fill _ _ h point _ haddress hdrag, hsite, site.statementAt?_fill]
    exact ⟨_, rfl, (writesSweep _ _ angle point true).sign rfl hangle⟩
  · rw [statementAt?_change_of_not p h point a hat]
    exact ⟨angle, hs, rfl⟩

/-- A turn keeps its side through a run of drags, since each drag keeps the sign that the one before
    has left. -/
theorem keeps_side_of_reflTransGen (p q : Program ℝ) (hrun : Relation.ReflTransGen EndDragged p q)
    (a : Address) (radius angle : ℝ) (hs : p.statementAt? a = some (.arcContinue radius angle))
    (hangle : angle ≠ 0) : ∃ angle', q.statementAt? a = some (.arcContinue radius angle') ∧
      SignType.sign angle' = SignType.sign angle := by
  induction hrun with
  | refl => exact ⟨angle, hs, rfl⟩
  | tail _ hlast ih =>
      rcases ih with ⟨between, hbetween, hsign⟩
      -- The sign has not become zero, so the next drag finds one to keep.
      have hsome : between ≠ 0 := by
        rw [← sign_ne_zero, hsign, sign_ne_zero]
        exact hangle
      rcases EndDragged.keeps_side _ _ hlast a radius between hbetween hsome with
        ⟨angle', hs', hsign'⟩
      exact ⟨angle', hs', hsign'.trans hsign⟩

/-- Angles of one sign put the center of a turn on one side. -/
theorem arcCenter_of_sign (cursor : Pose ℝ) (radius angle angle' : ℝ)
    (h : SignType.sign angle' = SignType.sign angle) :
    arcCenter cursor radius angle' = arcCenter cursor radius angle := by
  refine arcCenter_of_iff cursor radius angle angle' ?_
  rw [← sign_nonpos_iff, h, sign_nonpos_iff]

/-- Dragging the ends of turns. A handle at the end of a turn carries the angle of the turn. A drag
    writes the nearest angle by which the turn ends in the direction of the drag point, if it is not
    held back; a locked angle that is not zero keeps its sign, and is held back if this would
    change. So a turn that leaves straight on keeps its side in a run of such drags, whatever ends
    are dragged and wherever to. -/
theorem end_drags (p : Program ℝ) :
    (∀ h ∈ p.handles, ∀ center radius baseAngle angle keepsSign,
      h.grip = .onArc center radius baseAngle angle keepsSign → ∀ point,
      p.argumentAt? h.address = some (.number angle) ∧
      ∃ written, (p.change h point).argumentAt? h.address = some (.number written) ∧
        WritesSweep center baseAngle angle point keepsSign written) ∧
    ∀ q, Relation.ReflTransGen EndDragged p q → ∀ a radius angle,
      p.statementAt? a = some (.arcContinue radius angle) → angle ≠ 0 →
      ∃ angle', q.statementAt? a = some (.arcContinue radius angle') ∧
        SignType.sign angle' = SignType.sign angle ∧
        ∀ cursor, arcCenter cursor radius angle' = arcCenter cursor radius angle := by
  constructor
  · intro h hmem center radius baseAngle angle keepsSign hgrip point
    have hwritten := argumentAt?_change_of_mem p h hmem point
    rw [hgrip, Grip.written] at hwritten
    refine ⟨?_, _, hwritten, writesSweep center baseAngle angle point keepsSign⟩
    -- The angle is an argument of the statement at the site of the handle.
    rcases exists_site_of_mem p h hmem with ⟨site, s, rfl, haddress, hown⟩
    rw [haddress, site.argumentAt?_fill]
    exact s.argument_of_onArc _ _ h hown hgrip
  · intro q hrun a radius angle hs hangle
    rcases keeps_side_of_reflTransGen p q hrun a radius angle hs hangle with ⟨angle', hs', hsign⟩
    exact ⟨angle', hs', hsign, fun cursor => arcCenter_of_sign cursor radius angle angle' hsign⟩

/-- The end of a turn to the right, of more than a full turn. -/
theorem end_drags_turn :
    let p : Program ℝ := ⟨[⟨.uniform, 1, [.arcContinue 1 (-8)]⟩]⟩
    let center : Vec ℝ := arcCenter Pose.origin 1 (-8)
    let baseAngle := ((Pose.origin : Pose ℝ).position - center).angle
    let h : Handle ℝ := ⟨⟨0, 0, 1⟩, .arc, .keyPoint, .onArc center 1 baseAngle (-8) true⟩
    let q := p.change h ⟨3, 4⟩
    h ∈ p.handles ∧ p.argumentAt? h.address = some (.number (-8)) ∧
      (∃ written, q.argumentAt? h.address = some (.number written) ∧
        WritesSweep center baseAngle (-8) ⟨3, 4⟩ true written) ∧
      Relation.ReflTransGen EndDragged p q ∧
      ∃ angle', q.statementAt? ⟨0, 0, 0⟩ = some (.arcContinue 1 angle') ∧
        SignType.sign angle' = SignType.sign (-8 : ℝ) ∧
        ∀ cursor, arcCenter cursor 1 angle' = arcCenter cursor 1 (-8) := by
  intro p center baseAngle h q
  have hmem : h ∈ p.handles := List.mem_cons_of_mem _ (List.mem_singleton.mpr rfl)
  have hrun : Relation.ReflTransGen EndDragged p q :=
    Relation.ReflTransGen.single ⟨h, hmem, rfl, ⟨3, 4⟩, rfl⟩
  rcases end_drags p with ⟨hwrites, hkeeps⟩
  rcases hwrites h hmem center 1 baseAngle (-8) true rfl ⟨3, 4⟩ with ⟨hangle, hwritten⟩
  exact ⟨hmem, hangle, hwritten, hrun, hkeeps q hrun ⟨0, 0, 0⟩ 1 (-8) rfl (by norm_num)⟩

end PlanarMotion
