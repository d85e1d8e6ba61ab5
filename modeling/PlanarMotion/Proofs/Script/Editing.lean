import PlanarMotion.Proofs.Checked.Session
import PlanarMotion.Proofs.Checked.Doubles
import PlanarMotion.Proofs.Script.RoundTrip

/-!
# Editing What Was Read

A text has no infinite numbers in it, so a program that was read starts without infinite angles.
Doubles are tame, so it stays so however its handles are dragged, and everything that can be
asked of it has an answer. Handles need not be those of the program: they may be old, or written
by hand, and hold any doubles. Nor need the points be finite.

## Theorems

* `calmAngles_of_storable`: A program of finite literals has no infinite angle.
* `session_answers`: No operation of an editing session faults.
-/

namespace PlanarMotion

open PlanarMotion.Number

/-- The angle of a statement is one of its literals. -/
theorem Statement.mem_literals_of_angle? {α : Type} (s : Statement α) (angle : α)
    (h : angle ∈ s.angle?) : angle ∈ s.literals := by
  cases s with
  | arc center sweep =>
      rw [Option.some.inj h]
      exact List.mem_cons_of_mem _ (List.mem_cons_of_mem _ List.mem_cons_self)
  | arcContinue radius sweep =>
      rw [Option.some.inj h]
      exact List.mem_cons_of_mem _ List.mem_cons_self
  | _ => cases h

/-- A program of finite literals has no infinite angle. -/
theorem calmAngles_of_storable (f : Double.Functions) (p : Program Float) (h : p.Storable) :
    @Program.CalmAngles Float f.scalars p := by
  intro phase hphase s hs angle hangle
  have hfinite := ((h phase hphase).statements s hs).finite angle
    (s.mem_literals_of_angle? angle hangle)
  have hlt := (isFinite_iff angle).mp hfinite
  exact Bool.eq_false_iff.mpr fun hinfinite => hlt.ne ((isInf_iff angle).mp hinfinite)

namespace Script

/-- No operation of an editing session fails. Whatever handles are dragged to whatever points, a
    program that was read never has an infinite angle. The drags themselves, the mover of the
    program that they leave, its samples at all times, its handles and their positions are
    answers without a fault. The drags are any list, so this holds of every program on the way. -/
theorem session_answers (f : Double.Functions) (hf : f.Documented) (text : String)
    (p : Program Float) (hread : read text = .ok p) (drags : List (Handle Float × Vec Float)) :
    letI := f.scalars
    (∀ phase ∈ (p.changes drags).phases, ∀ s ∈ phase.statements, ∀ angle ∈ s.angle?,
      angle.isInf = false) ∧
    Checked.changes p drags = .ok (p.changes drags) ∧ (p.changes drags).Answers := by
  let _ := f.scalars
  -- The grammar has no infinite literal, no drag makes an infinite angle, and nothing else fails.
  have htame := Double.tame f hf
  have hdenotes := (readTokens_eq_ok_iff _ p).mp hread
  have hcalm := calmAngles_changes htame p drags
    (calmAngles_of_storable f p (Denotes.storable _ p hdenotes))
  exact ⟨hcalm, changes_eq htame p drags, answers_of_calm htame _ hcalm⟩

/-- A short program that turns. -/
def oneTurn : Program Float :=
  ⟨[⟨.uniform, 1, [.arc ⟨0, 2⟩ 1.5]⟩]⟩

theorem read_print_oneTurn : read (print oneTurn) = .ok oneTurn.rounded := by
  refine read_print oneTurn (by decide) ?_
  refine List.forall_mem_singleton.mpr ⟨by decide, List.forall_mem_singleton.mpr ⟨by decide, ?_⟩⟩
  intro n hn
  cases hn

/-- Its center is dragged out of sight, and then an old handle of its end, with an angle that was
    never in the program. -/
theorem session_answers_oneTurn :
    letI := Double.Functions.confined.scalars
    let drags : List (Handle Float × Vec Float) :=
      [(⟨⟨0, 0, 0⟩, .arc, .arc, .free ⟨0, 2⟩⟩, ⟨Double.infinity, 0⟩),
        (⟨⟨0, 0, 1⟩, .arc, .keyPoint, .onArc ⟨0, 2⟩ 2 0 Double.infinity false⟩, ⟨2, Double.nan⟩)]
    ∃ p q, read (print oneTurn) = .ok p ∧ Checked.changes p drags = .ok q ∧ q.Answers ∧
      ∀ phase ∈ q.phases, ∀ s ∈ phase.statements, ∀ angle ∈ s.angle?, angle.isInf = false := by
  intro drags
  have hsession := session_answers _ Double.Functions.documented_confined _ _ read_print_oneTurn
    drags
  exact ⟨_, _, read_print_oneTurn, hsession.2.1, hsession.2.2, hsession.1⟩

end Script

end PlanarMotion
