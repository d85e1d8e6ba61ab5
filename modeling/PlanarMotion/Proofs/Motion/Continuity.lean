import PlanarMotion.Proofs.Build.Joints
import PlanarMotion.Proofs.Motion.Phases
import PlanarMotion.Proofs.Motion.Progress

/-!
# Motion Never Jumps

Over the real numbers the place of a program is a continuous function of time, if no phase is
without duration and the cursor is moved without drawing only before anything is drawn. What
could jump is checked layer by layer, and each layer passes on where its tracks start and end.
Pieces meet at the cursor, so a path leads from cursor to cursor. Progress is continuous and goes
all the way from zero to one, so a leg leads where its path does. The legs meet at the cursor that
one phase hands to the next, so a program is the join of its legs.

A phase without duration is left out for a reason: it is over at once, and its place jumps from
the start of its path to the end.

## Main definitions

* `Program.StartsFirst`: The cursor is moved without drawing only before anything is drawn.

## Theorems

* `Leg.leads`, `Leg.unbroken`: A leg leads where its path does.
* `linked_phaseLegs`: The legs of a program meet.
* `continuous_position`: The place of a program is continuous in time.
-/

namespace PlanarMotion

open Scalar

/-- The cursor is moved without drawing only before anything is drawn. -/
def Program.StartsFirst {α : Type} (p : Program α) : Prop :=
  (∀ phase ∈ p.phases.head?, Statement.StartsFirst phase.statements) ∧
    ∀ phase ∈ p.phases.tail, ∀ s ∈ phase.statements, s.draws = true

instance {α : Type} (p : Program α) : Decidable p.StartsFirst :=
  inferInstanceAs (Decidable (_ ∧ _))

namespace Leg

variable (l : Leg ℝ) {a b : Vec ℝ}

theorem relativeTime_eq (hpos : 0 < l.duration) (t : ℝ) :
    l.relativeTime t = clamp (t / l.duration) 0 1 := by
  unfold relativeTime
  rw [if_neg (not_real_beq hpos.ne')]

theorem place_track (t : ℝ) : l.motion.track.place t
    = l.path.curve.track.place (l.easing.progress (l.relativeTime t) * l.path.curve.length) :=
  rfl

/-- A leg that takes time leads where its path does. -/
theorem leads (hpos : 0 < l.duration) (h : l.path.curve.track.Leads a b) :
    l.motion.track.Leads a b := by
  refine ⟨hpos.le, fun t ht => ?_, fun t ht => ?_⟩
  · have hrelative : l.relativeTime t = 0 := by
      rw [l.relativeTime_eq hpos]
      exact clamp_of_le _ 0 1 (div_nonpos_of_nonpos_of_nonneg ht hpos.le)
    -- Before the start nothing has been covered.
    rw [l.place_track, hrelative, l.easing.progress_of_le_zero 0 (le_refl _), zero_mul]
    exact h.first 0 (le_refl _)
  · have hrelative : l.relativeTime t = 1 := by
      rw [l.relativeTime_eq hpos]
      exact clamp_of_ge _ 0 1 zero_le_one ((one_le_div hpos).mpr ht)
    -- Behind the end all of the path has.
    rw [l.place_track, hrelative, l.easing.progress_of_one_le 1 (le_refl _), one_mul]
    exact h.last _ (le_refl _)

/-- A leg that takes time does not jump if its path does not. -/
theorem unbroken (hpos : 0 < l.duration) (h : l.path.curve.track.Unbroken) :
    l.motion.track.Unbroken := by
  -- The distance is a continuous function of the time, and the place one of the distance.
  have hrelative : Continuous l.relativeTime := by
    rw [funext (l.relativeTime_eq hpos)]
    exact (continuous_clamp 0 1).comp (continuous_id.div_const l.duration)
  have hdistance : Continuous fun t =>
      l.easing.progress (l.relativeTime t) * l.path.curve.length :=
    (l.easing.continuous_progress.comp hrelative).mul continuous_const
  exact ⟨h.1.comp hdistance, h.2.comp hdistance⟩

end Leg

/-- The leg of a phase leads to the cursor that it hands on. -/
theorem leads_leg (cursor : Pose ℝ) (phase : Phase ℝ) (a : Vec ℝ) (hpos : 0 < phase.duration)
    (h : Linked a ((PathBuilder.ofCursor cursor).drawAll phase.statements).tracks
      ((PathBuilder.ofCursor cursor).drawAll phase.statements).cursor.position) :
    let l : Leg ℝ := ⟨((PathBuilder.ofCursor cursor).drawAll phase.statements).build,
      phase.duration, phase.method.easing⟩
    l.motion.track.Leads a
        ((PathBuilder.ofCursor cursor).drawAll phase.statements).cursor.position ∧
      l.motion.track.Unbroken := by
  intro l
  have hpath := PathBuilder.steady_build _ a h
    (PathBuilder.steady_drawAll cursor phase.statements)
  exact ⟨l.leads hpos (PathBuilder.leads_build _ a h), l.unbroken hpos hpath.unbroken⟩

/-- The legs of phases that draw all the time meet. -/
theorem linked_phaseLegs (cursor : Pose ℝ) (phases : List (Phase ℝ))
    (hdurations : ∀ phase ∈ phases, 0 < phase.duration)
    (hdraws : ∀ phase ∈ phases, ∀ s ∈ phase.statements, s.draws = true) :
    Linked cursor.position ((phaseLegs cursor phases).map fun l => l.motion.track)
        (phasesCursor cursor phases).position ∧
      ∀ l ∈ phaseLegs cursor phases, l.motion.track.Unbroken := by
  induction phases generalizing cursor with
  | nil => exact ⟨.nil _, List.forall_mem_nil _⟩
  | cons phase rest ih =>
      rw [List.forall_mem_cons] at hdurations hdraws
      have hpieces := PathBuilder.linked_drawAll (PathBuilder.ofCursor cursor) phase.statements
        cursor.position hdraws.1 (.nil _)
      rcases leads_leg cursor phase cursor.position hdurations.1 hpieces with ⟨hleads, hunbroken⟩
      -- The other phases start where this one has ended.
      rcases ih ((PathBuilder.ofCursor cursor).drawAll phase.statements).cursor hdurations.2
        hdraws.2 with ⟨hlinked, hall⟩
      rw [phaseLegs, List.map_cons, List.forall_mem_cons]
      exact ⟨.cons hleads hlinked, hunbroken, hall⟩

/-- The legs of a program meet. -/
theorem exists_linked_legs (p : Program ℝ) (hdurations : ∀ phase ∈ p.phases, 0 < phase.duration)
    (hstarts : p.StartsFirst) :
    (∃ a b, Linked a ((phaseLegs Pose.origin p.phases).map fun l => l.motion.track) b) ∧
      ∀ l ∈ phaseLegs Pose.origin p.phases, l.motion.track.Unbroken := by
  rcases p with ⟨_ | ⟨phase, rest⟩⟩
  · exact ⟨⟨Vec.zero, Vec.zero, .nil _⟩, List.forall_mem_nil _⟩
  · rw [List.forall_mem_cons] at hdurations
    -- The first phase may start anywhere, and the others start where it ends.
    rcases PathBuilder.exists_linked_drawAll Pose.origin phase.statements
      (hstarts.1 phase rfl) with ⟨a, hpieces⟩
    rcases leads_leg Pose.origin phase a hdurations.1 hpieces with ⟨hleads, hunbroken⟩
    rcases linked_phaseLegs ((PathBuilder.ofCursor Pose.origin).drawAll phase.statements).cursor
      rest hdurations.2 hstarts.2 with ⟨hlinked, hall⟩
    rw [phaseLegs, List.map_cons, List.forall_mem_cons]
    exact ⟨⟨a, _, .cons hleads hlinked⟩, hunbroken, hall⟩

theorem motion_compile (p : Program ℝ) :
    p.compile.motion = Motion.sequence ((phaseLegs Pose.origin p.phases).map Leg.motion) := by
  have hlegs : p.compile = .sequence p.compile.parts := rfl
  rw [hlegs, p.parts_compile, Mover.motion, Mover.motions_eq_map, List.map_map]
  rfl

/-- Motion never jumps. Whatever the methods of the phases, and also if phases have no statements,
    pieces have no length or curves are chords, the place of a program is continuous at all times,
    if the cursor is moved without drawing only before anything is drawn and every phase takes
    time. Each phase ends where the next one starts. -/
theorem continuous_position (p : Program ℝ)
    (hdurations : ∀ phase ∈ p.phases, 0 < phase.duration) (hstarts : p.StartsFirst) :
    (Continuous fun t => (p.compile.sample t).pose.position.x) ∧
    (Continuous fun t => (p.compile.sample t).pose.position.y) ∧
    p.compile.parts.IsChain fun m n =>
      (m.sample m.duration).pose.position = (n.sample 0).pose.position := by
  rcases exists_linked_legs p hdurations hstarts with ⟨⟨a, b, hlinked⟩, hunbroken⟩
  have hmotion := motion_compile p
  have htracks : (phaseLegs Pose.origin p.phases).map (fun l => l.motion.track)
      = ((phaseLegs Pose.origin p.phases).map Leg.motion).map Motion.track := by
    rw [List.map_map]
    rfl
  have hplaces : p.compile.motion.track.Unbroken := by
    rw [hmotion]
    by_cases hempty : (phaseLegs (Pose.origin : Pose ℝ) p.phases).map Leg.motion = []
    · -- Without phases the mover rests.
      have hx : Continuous fun _ : ℝ => (Sample.atRest : Sample ℝ).pose.position.x :=
        continuous_const
      have hy : Continuous fun _ : ℝ => (Sample.atRest : Sample ℝ).pose.position.y :=
        continuous_const
      rw [hempty]
      exact ⟨hx, hy⟩
    -- The places of a sequence that meets are a join, which is unbroken if its parts are.
    · rw [htracks] at hlinked
      have hjoined := hlinked.unbroken (by rw [← htracks]; exact List.forall_mem_map.mpr hunbroken)
      have hplace := Motion.place_sequence _ hempty hlinked
      unfold Track.Unbroken
      simp only [hplace]
      exact hjoined
  refine ⟨hplaces.1, hplaces.2, ?_⟩
  rw [p.parts_compile]
  exact (List.isChain_map _).mpr ((List.isChain_map _).mp hlinked.isChain)

/-- A program that moves the cursor, turns, waits, and goes back along a line of length zero and a
    curve. -/
noncomputable def turnAndBack : Program ℝ :=
  ⟨[⟨.sine, 1, [.start ⟨1, 0⟩, .line ⟨2, 0⟩, .arcContinue 1 (-3)]⟩, ⟨.wait, 2, []⟩,
    ⟨.inverseSmoothStep, 3, [.lineContinue 0, .bezier ⟨1, 1⟩ ⟨0, 1⟩ ⟨0, 0⟩ 4]⟩]⟩

/-- This program takes time in every phase and moves the cursor before it draws. -/
theorem continuous_position_turnAndBack :
    (∀ phase ∈ turnAndBack.phases, 0 < phase.duration) ∧ turnAndBack.StartsFirst ∧
      (Continuous fun t => (turnAndBack.compile.sample t).pose.position.x) ∧
      Continuous fun t => (turnAndBack.compile.sample t).pose.position.y := by
  have hdurations : ∀ phase ∈ turnAndBack.phases, 0 < phase.duration := by
    simp [turnAndBack]
  have hstarts : turnAndBack.StartsFirst := by decide
  have hcontinuous := continuous_position turnAndBack hdurations hstarts
  exact ⟨hdurations, hstarts, hcontinuous.1, hcontinuous.2.1⟩

end PlanarMotion
