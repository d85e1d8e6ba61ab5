import PlanarMotion.Proofs.Handle.Skeleton
import PlanarMotion.Proofs.Script.Editing
import PlanarMotion.Proofs.Script.Saving

/-!
# Editing Runs

A run starts with a program that was read. At each step a handle is dragged, or the program is
replaced by what is read from its own text; if that text is refused then the program stays. The
handles may be old ones or written by hand, and points need not be finite, so a run can pass
through programs that have no text to be read back from.

Along a run the program keeps its outline, and with it the skeleton of its handles. Neither step
gives the other away. A drag keeps the outline whatever it does to literals. A text is only
accepted if it has no literal that is not a finite number, and then it is known what is read from
it; so a literal that is not printed as a number can make a reload fail, but it cannot make it
succeed with another program.

What carries the induction is `Reached`: apart from the outline it says of a program what can be
built and printed, and that its angles are calm, so that it has handles at all.

## Main definitions

* `reload`: A program replaced by what is read from its text.
* `Step`, `Step.apply`, `run`: The steps of a run, and a program after several.
* `Reached`: What holds of the programs of a run.

## Theorems

* `reached_drag`, `reached_reload`, `reached_run`: The invariant along a run.
* `run_handles`: All programs of a run have the same handles, up to their places.
-/

namespace PlanarMotion

namespace Script

/-- A program replaced by what is read from its text, unless that is refused. -/
def reload (p : Program Float) : Program Float :=
  match read (print p) with
  | .ok q => q
  | .error _ => p

/-- A step of a run. -/
inductive Step where
  /-- A handle is dragged to a point. -/
  | drag (h : Handle Float) (point : Vec Float)
  /-- The program is printed and read again. -/
  | reload

/-- A program after a step, with given functions of angles. -/
def Step.apply (f : Double.Functions) (p : Program Float) : Step → Program Float
  | .drag h point => @Program.change Float f.scalars p h point
  | .reload => Script.reload p

/-- A program after several steps. -/
def run (f : Double.Functions) (p : Program Float) (steps : List Step) : Program Float :=
  steps.foldl (Step.apply f) p

/-- What holds of the programs of a run that starts with `p`. -/
structure Reached (f : Double.Functions) (p q : Program Float) : Prop where
  /-- It can be built. -/
  valid : q.Valid
  /-- Durations and counts are fit for a text. Literals need not be. -/
  framed : ∀ phase ∈ q.phases, Framed phase
  /-- No angle is infinite. -/
  calm : @Program.CalmAngles Float f.scalars q
  /-- It is the first program, apart from literals. -/
  outline : SameOutline p q

variable (f : Double.Functions)

/-- What was read is the start of a run. -/
theorem reached_read (text : String) (p : Program Float) (hread : read text = .ok p) :
    Reached f p p := by
  have hdenotes := (readTokens_eq_ok_iff _ p).mp hread
  exact ⟨hdenotes.valid, framed_of_storable p hdenotes.storable,
    calmAngles_of_storable f p hdenotes.storable, ⟨rfl, rfl, rfl⟩⟩

/-- A drag keeps what holds along a run. -/
theorem reached_drag (hf : f.Documented) (p q : Program Float) (h : Handle Float)
    (point : Vec Float) (hq : Reached f p q) :
    Reached f p (@Program.change Float f.scalars q h point) := by
  have houtline := @outline_change Float f.scalars q h point
  have hcalm := @calmAngles_change Float f.scalars (Double.tame f hf) q h point hq.calm
  exact ⟨valid_of_outline q _ houtline hq.valid, framed_of_outline q _ houtline hq.framed, hcalm,
    hq.outline.trans (sameOutline_of_outline q _ houtline)⟩

/-- So does a reload, whether it is refused or not. -/
theorem reached_reload (p q : Program Float) (hq : Reached f p q) : Reached f p (reload q) := by
  unfold reload
  cases hback : read (print q) with
  | error cause =>
      -- The text was refused, and the program stays.
      exact hq
  | ok r =>
      -- The text was accepted, so the program has finite literals and comes back rounded.
      have hstorable := (read_print_iff q hq.valid hq.framed).mp ⟨r, hback⟩
      have hrounded : r = q.rounded := by
        rw [read_print q hq.valid hstorable] at hback
        exact (Except.ok.inj hback).symm
      have hrounds := roundsTo_rounded q hq.valid hstorable
      rw [← hrounded] at hrounds
      have hstart := reached_read f _ r hback
      exact ⟨hstart.valid, hstart.framed, hstart.calm, hq.outline.trans hrounds.sameOutline⟩

/-- And so do any number of steps. -/
theorem reached_run (hf : f.Documented) (p q : Program Float) (steps : List Step)
    (hq : Reached f p q) : Reached f p (run f q steps) := by
  -- The program is general, since each step starts where the one before it ended.
  induction steps generalizing q with
  | nil => exact hq
  | cons step steps ih =>
      refine ih (step.apply f q) ?_
      cases step with
      | drag h point => exact reached_drag f hf p q h point hq
      | reload => exact reached_reload f p q hq

/-- The kinds of statements are part of the outline. -/
theorem SameOutline.kinds {p q : Program Float} (h : SameOutline p q) : q.kinds = p.kinds := by
  have hkinds := congrArg (List.map (List.map Prod.fst)) h.forms
  simp only [List.map_map, Function.comp_def] at hkinds
  exact hkinds

/-- The handles along a run. However a program that was read is edited and reloaded, each program
    on the way has handles, and up to their places they are those of the first one: the same
    addresses, kinds of grips, kinds of segments and markers in the same order. Addresses are in
    order, and there is one handle for each argument of a statement. Methods, durations, kinds of
    statements and counts of chords stay what they are. -/
theorem run_handles (hf : f.Documented) (text : String) (p : Program Float)
    (hread : read text = .ok p) (steps : List Step) :
    letI := f.scalars
    (run f p steps).handles? = .ok (run f p steps).handles ∧
    (run f p steps).handles.map Handle.skeleton = p.handles.map Handle.skeleton ∧
    ((run f p steps).handles.map (·.address)).Pairwise Address.Before ∧
    (∀ a, ((run f p steps).handles.map (·.address)).count a
      = if ((run f p steps).argumentAt? a).isSome then 1 else 0) ∧
    SameOutline p (run f p steps) := by
  let _ := f.scalars
  have hrun := reached_run f hf p p steps (reached_read f text p hread)
  have hanswers := answers_of_calm (Double.tame f hf) _ hrun.calm
  exact ⟨hanswers.handles?, skeleton_handles_of_kinds _ _ hrun.outline.kinds,
    pairwise_before_handles _, count_address_handles _, hrun.outline⟩

/-- A turn is dragged out of sight, which cannot be reloaded, and brought back by a handle of the
    first program, which can. It has its two handles all the time. -/
theorem run_handles_oneTurn :
    letI := Double.Functions.confined.scalars
    let h : Handle Float := ⟨⟨0, 0, 0⟩, .arc, .arc, .free ⟨0, 2⟩⟩
    let q := run Double.Functions.confined oneTurn.rounded
      [.drag h ⟨Double.infinity, Double.nan⟩, .reload, .drag h ⟨0, 3⟩, .reload]
    read (print oneTurn) = .ok oneTurn.rounded ∧ q.handles? = .ok q.handles ∧
      q.handles.map Handle.skeleton
        = [(⟨0, 0, 0⟩, "Free", .arc, .arc), (⟨0, 0, 1⟩, "OnArc", .arc, .keyPoint)] := by
  intro h q
  have hrun := run_handles _ Double.Functions.documented_confined _ _ read_print_oneTurn
    [.drag h ⟨Double.infinity, Double.nan⟩, .reload, .drag h ⟨0, 3⟩, .reload]
  exact ⟨read_print_oneTurn, hrun.1, hrun.2.1⟩

end Script

end PlanarMotion
