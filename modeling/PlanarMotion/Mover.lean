import PlanarMotion.Easing
import PlanarMotion.Path.Basic

/-!
# Movers

A path, a duration and an easing make a leg; legs and whole movers played back to back
make a mover again. Time is always an argument: sampling twice gives the same answer.

A time on the boundary of two phases belongs to the earlier one, unlike a distance on
the boundary of two pieces of a path. So the phases that own a time end at it or later,
and a phase without duration never owns a time, unless it is the first.

## Main definitions

* `Sample`: A pose and a speed.
* `Motion`: A duration and a sample for each time.
* `Leg`, `Leg.motion`: A path walked under an easing.
* `locate`: The phase that owns a time, and the time within it.
* `Motion.sequence`: Motions back to back.
* `Mover`, `Mover.motion`: A leg or movers back to back.

## Theorems

* `ownerIndex_lt`: A search stays within the marks.
* `Mover.motions_eq_map`: Several movers are motions one by one.
-/

namespace PlanarMotion

variable {α : Type} [Scalar α]

/-- Where a mover is, where it heads, and how fast it is. -/
structure Sample (α : Type) where
  /-- Place and heading. -/
  pose : Pose α
  /-- Distance per time, infinite where progress is vertical. -/
  speed : α
  deriving DecidableEq, Repr

/-- What can be sampled over a time. -/
structure Motion (α : Type) where
  /-- How long it takes. -/
  duration : α
  /-- The sample at a time; times outside count as the ends. -/
  sample : α → Sample α
  /-- Whether the sample can be computed without the sine of an infinite angle. -/
  defined : α → Bool

/-- The sample at a time, unless it needs the sine of an infinite angle. -/
def Motion.sample? (m : Motion α) (time : α) : Except DomainError (Sample α) :=
  DomainError.guard (m.defined time) (m.sample time)

/-- A path walked in a time under an easing. -/
structure Leg (α : Type) [Scalar α] where
  /-- The path to walk. -/
  path : Path α
  /-- How long it takes. -/
  duration : α
  /-- How progress depends on time. -/
  easing : Easing

namespace Leg

/-- The fraction of its time that a leg has used. A leg without duration is over at once. -/
def relativeTime (l : Leg α) (time : α) : α :=
  if l.duration == 0 then 1 else Scalar.clamp (time / l.duration) 0 1

/-- The speed by the chain rule; nothing moves along a path without length. -/
def speedAt (l : Leg α) (length relative : α) : α :=
  if l.duration == 0 || length == 0 then 0
  else l.easing.slope relative * length / l.duration

/-- A leg as a motion. -/
def motion (l : Leg α) : Motion α :=
  let curve := l.path.curve
  let distance := fun time => l.easing.progress (l.relativeTime time) * curve.length
  { duration := l.duration
    sample := fun time =>
      ⟨curve.pose (distance time), l.speedAt curve.length (l.relativeTime time)⟩
    defined := fun time => curve.defined (distance time) }

end Leg

/-- The index of the first mark at or beyond a time; the last one's if there is none. -/
def ownerIndex (time : α) : List α → Nat
  | mark :: next :: marks =>
    if mark < time then ownerIndex time (next :: marks) + 1 else 0
  | _ => 0

/-- The phase that owns a time is one of the phases, if there are any. -/
theorem ownerIndex_lt (time : α) (marks : List α) (h : 0 < marks.length) :
    ownerIndex time marks < marks.length := by
  fun_induction ownerIndex time marks with
  | case1 mark next marks hbeyond ih =>
    have hnext := ih (Nat.succ_pos _)
    rw [List.length_cons]
    omega
  | case2 mark next marks howned => exact h
  | case3 marks hshort => exact h

/-- The phase that owns a time among phases of given durations, and the time within it. -/
def locate (durations : List α) (time : α) : Nat × α :=
  let marks := runningSums durations
  let clamped := Scalar.clamp time 0 (total durations)
  let index := ownerIndex clamped marks
  -- The mark in front, which is where the phase starts.
  let start := if index = 0 then 0 else marks[index - 1]?.getD 0
  (index, clamped - start)

/-- Where a sequence of no phases rests. -/
def Sample.atRest : Sample α :=
  ⟨⟨Vec.zero, Vec.unitX⟩, 0⟩

/-- Motions back to back. -/
def Motion.sequence (motions : List (Motion α)) : Motion α :=
  let durations := motions.map (·.duration)
  { duration := total durations
    sample := fun time =>
      let (index, offset) := locate durations time
      match motions[index]? with
      | some m => m.sample offset
      | none => Sample.atRest
    defined := fun time =>
      let (index, offset) := locate durations time
      match motions[index]? with
      | some m => m.defined offset
      | none => true }

/-- A leg, or movers back to back. -/
inductive Mover (α : Type) [Scalar α] where
  /-- One path under one easing. -/
  | leg (l : Leg α)
  /-- Movers back to back. -/
  | sequence (movers : List (Mover α))

namespace Mover

mutual

/-- A mover as a motion. -/
def motion : Mover α → Motion α
  | .leg l => l.motion
  | .sequence movers => Motion.sequence (motions movers)

/-- Several movers as motions. -/
def motions : List (Mover α) → List (Motion α)
  | [] => []
  | mover :: movers => motion mover :: motions movers

end

/-- How long a mover takes. -/
def duration (m : Mover α) : α :=
  m.motion.duration

/-- The sample of a mover at a time. -/
def sample (m : Mover α) (time : α) : Sample α :=
  m.motion.sample time

/-- The sample at a time, unless it needs the sine of an infinite angle. -/
def sample? (m : Mover α) (time : α) : Except DomainError (Sample α) :=
  m.motion.sample? time

/-- The movers of a sequence; any other mover is its own only one. -/
def parts : Mover α → List (Mover α)
  | .sequence movers => movers
  | m => [m]

/-- Making motions of movers is making a motion of each. -/
theorem motions_eq_map (movers : List (Mover α)) : motions movers = movers.map motion := by
  induction movers with
  | nil => rw [motions, List.map_nil]
  | cons mover movers ih => rw [motions, List.map_cons, ih]

end Mover

end PlanarMotion
