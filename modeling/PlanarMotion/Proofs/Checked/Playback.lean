import PlanarMotion.Mover
import PlanarMotion.Proofs.Checked.Basic

/-!
# Playback Without Hidden Faults

A mover answers every time with a sample, and `Mover.sample?` refuses the sample if the sine of
an infinite angle is behind it. Whether that is the only thing that can go wrong is a question
about all the places where playing a mover takes an arcsine, a quotient or an element of a
list. So playing is written once more, on operations that may fault.

The two agree at every time, on every mover. The reasons are local. A leg divides by its duration
after it has asked whether that is zero. The arcsine is asked for points inside the unit
interval, and none is wherever the clamp has let a time that is no number pass to the end. A
chain whose length is not zero has children, because the sum of no lengths is zero, and a search
among its marks that is cut off at the last child stays on them whatever the marks are.

## Main definitions

* `Checked.progress`, `Checked.slope`: An easing.
* `Checked.Track`: What can be walked along, with faults.
* `Checked.track`: A path as a track.
* `Checked.Playback`: What can be sampled over a time, with faults.
* `Checked.playback`: A mover as a playback.

## Theorems

* `Checked.progress_eq`, `Checked.slope_eq`: An easing never faults.
* `Checked.track_eq`: A path refuses a pose only for the sine of an infinite angle.
* `Checked.playback_eq`: A mover refuses a sample only for that.
-/

namespace PlanarMotion

namespace Checked

open PlanarMotion.Scalar

variable {α : Type} [Scalar α]

/-- The inverse of the cubic step. -/
def inverseStep (t : α) : Except Fault α :=
  if t ≤ 0 then .ok 0
  else if 1 ≤ t then .ok 1
  else do
    let third ← quotient (← arcsine (1 - two * t)) (ofNat 3)
    return half - (← sine third)

/-- The slope of the inverse of the cubic step. -/
def inverseStepSlope (t : α) : Except Fault α := do
  let slope := CubicStep.riseSlope (← inverseStep t)
  if slope ≤ 0 then return infinity else quotient 1 slope

/-- Progress at a fraction of time within the unit interval. -/
def curve (e : Easing) (t : α) : Except Fault α :=
  match e with
  | .uniform => .ok t
  | .sine => sine (Easing.quarterAngle t)
  | .cosine => do return 1 - (← cosine (Easing.quarterAngle t))
  | .smoothStep => .ok (CubicStep.rise t)
  | .inverseSmoothStep => inverseStep t

/-- The slope of progress at a fraction of time within the unit interval. -/
def curveSlope (e : Easing) (t : α) : Except Fault α :=
  match e with
  | .uniform => .ok 1
  | .sine => do return quarterTurn * (← cosine (Easing.quarterAngle t))
  | .cosine => do return quarterTurn * (← sine (Easing.quarterAngle t))
  | .smoothStep => .ok (CubicStep.riseSlope t)
  | .inverseSmoothStep => inverseStepSlope t

/-- Progress at any time. -/
def progress (e : Easing) (t : α) : Except Fault α :=
  curve e (clamp t 0 1)

/-- The slope of progress at any time. -/
def slope (e : Easing) (t : α) : Except Fault α :=
  curveSlope e (clamp t 0 1)

/-- The inverse of the cubic step never faults. -/
theorem inverseStep_eq (htame : Tame α) (t : α) : inverseStep t = .ok (CubicStep.inverse t) := by
  unfold inverseStep CubicStep.inverse
  by_cases hlow : t ≤ 0
  · rw [if_pos hlow, if_pos hlow]
  · rw [if_neg hlow, if_neg hlow]
    by_cases hhigh : 1 ≤ t
    · rw [if_pos hhigh, if_pos hhigh]
    · rw [if_neg hhigh, if_neg hhigh]
      -- Neither end has been reached, so the argument is the sine of something.
      have hsine := htame.within_centered t hlow hhigh
      rw [arcsine_eq _ hsine, ok_bind, quotient_eq _ _ (htame.ofNat_beq 3 (by decide)), ok_bind,
        sine_eq _ (htame.calm_arcsine _ hsine)]
      rfl

/-- Its slope does not either, since a flat step is not divided by. -/
theorem inverseStepSlope_eq (htame : Tame α) (t : α) :
    inverseStepSlope t = .ok (CubicStep.inverseSlope t) := by
  unfold inverseStepSlope CubicStep.inverseSlope
  rw [inverseStep_eq htame, ok_bind]
  by_cases hflat : CubicStep.riseSlope (CubicStep.inverse t) ≤ 0
  · rw [if_pos hflat, if_pos hflat]
    rfl
  · rw [if_neg hflat, if_neg hflat, quotient_eq _ _ (htame.beq_of_not_le _ hflat)]

theorem calm_quarterAngle (htame : Tame α) (t : α) (ht : Within 1 t) :
    Calm (Easing.quarterAngle t) :=
  htame.calm_mul_left _ t (htame.calm_of_within _ htame.within_quarterTurn) ht

/-- Progress never faults. -/
theorem progress_eq (htame : Tame α) (e : Easing) (t : α) : progress e t = .ok (e.progress t) := by
  have hcalm := calm_quarterAngle htame _ (htame.within_clamp t)
  unfold progress Easing.progress curve Easing.curve
  cases e with
  | uniform => rfl
  | sine => exact sine_eq _ hcalm
  | cosine =>
      simp only
      rw [cosine_eq _ hcalm]
      rfl
  | smoothStep => rfl
  | inverseSmoothStep => exact inverseStep_eq htame _

/-- The slope of progress never faults. -/
theorem slope_eq (htame : Tame α) (e : Easing) (t : α) : slope e t = .ok (e.slope t) := by
  have hcalm := calm_quarterAngle htame _ (htame.within_clamp t)
  unfold slope Easing.slope curveSlope Easing.curveSlope
  cases e with
  | uniform => rfl
  | sine =>
      simp only
      rw [cosine_eq _ hcalm]
      rfl
  | cosine =>
      simp only
      rw [sine_eq _ hcalm]
      rfl
  | smoothStep => rfl
  | inverseSmoothStep => exact inverseStepSlope_eq htame _

/-- What can be walked along, with faults. -/
structure Track (α : Type) where
  /-- The distance from one end to the other. -/
  length : α
  /-- The pose after a distance. -/
  pose : α → Except Fault (Pose α)

/-- A curve as a track: it refuses what the curve refuses. -/
def Track.ofCurve (c : Curve α) : Track α :=
  ⟨c.length, fun t => refused (c.pose? t)⟩

/-- A line as a track. -/
def lineTrack (s : LineSegment α) : Track α :=
  ⟨s.length, fun t => do
    let direction ← normalized (s.stop - s.start)
    return ⟨s.start + direction.scale (clamp t 0 s.length), direction⟩⟩

/-- The angle reached after a distance along an arc. -/
def angleAt (a : Arc α) (t : α) : Except Fault α :=
  if a.length == 0 then .ok a.startAngle
  else do
    return a.startAngle
      + (a.endAngle - a.startAngle) * (← quotient (clamp t 0 a.length) a.length)

/-- An arc as a track. -/
def arcTrack (a : Arc α) : Track α :=
  ⟨a.length, fun t => do
    let angle ← angleAt a t
    let offset ← ofAngle angle a.radius
    let s ← sine angle
    let c ← cosine angle
    return ⟨a.center + offset, if a.counterClockwise then ⟨-s, c⟩ else ⟨s, -c⟩⟩⟩

/-- The index of the child that owns a distance, and the distance within it. -/
def place (count : Nat) (marks : List α) (t : α) : Except Fault (Nat × α) := do
  let index := min (firstBeyond marks.toArray t) (count - 1)
  let start ← if index = 0 then .ok 0 else element marks (index - 1)
  return (index, t - start)

/-- The child that answers for a distance, and the distance to ask it for. -/
def answerer (children : List (Track α)) (t : α) : Except Fault (Option (Track α × α)) :=
  let marks := runningSums (children.map (·.length))
  let length := total (children.map (·.length))
  if length == 0 then .ok none
  else if t ≤ 0 then do return some (← element children 0, 0)
  else if length ≤ t then do
    let last ← element children (children.length - 1)
    return some (last, last.length)
  else do
    let (index, offset) ← place children.length marks t
    return some (← element children index, offset)

/-- Tracks end to end, and where to rest if they have no length. -/
def chainTrack (children : List (Track α)) (rest : Pose α) : Track α :=
  ⟨total (children.map (·.length)), fun t => do
    match ← answerer children t with
    | some (child, offset) => child.pose offset
    | none => return rest⟩

mutual

/-- A path as a track. -/
def track : Path α → Track α
  | .line s => lineTrack s
  | .arc a => arcTrack a
  | .polyline p => chainTrack (p.chords.map lineTrack) p.chain.rest
  | .chain children rest => chainTrack (tracks children) rest

/-- Several paths as tracks. -/
def tracks : List (Path α) → List (Track α)
  | [] => []
  | path :: paths => track path :: tracks paths

end

theorem lineTrack_eq (s : LineSegment α) : lineTrack s = Track.ofCurve s.curve := by
  unfold lineTrack
  rw [normalized_eq]
  rfl

/-- The angle along an arc is found without a fault; an arc without length has only the first. -/
theorem angleAt_eq (a : Arc α) (t : α) : angleAt a t = .ok (a.angleAt t) := by
  unfold angleAt Arc.angleAt
  cases hzero : a.length == 0 with
  | true => simp only [hzero, if_true]
  | false =>
      simp only [hzero, Bool.false_eq_true, if_false]
      rw [quotient_eq _ _ hzero]
      rfl

/-- An arc refuses a pose exactly where the angle is infinite. -/
theorem arcTrack_eq (a : Arc α) : arcTrack a = Track.ofCurve a.curve := by
  unfold arcTrack Track.ofCurve
  refine congrArg (Track.mk a.length) (funext fun t => ?_)
  rw [angleAt_eq, ok_bind, ofAngle_eq]
  unfold sine cosine Vec.ofAngle? Curve.pose? Arc.curve
  simp only
  -- Sines and cosines of one angle are refused together.
  cases Scalar.isInfinite (a.angleAt t) <;> rfl

omit [Scalar α] in
theorem map_length_ofCurve (cs : List (Curve α)) :
    (cs.map Track.ofCurve).map (·.length) = cs.map (·.length) := by
  rw [List.map_map]
  rfl

omit [Scalar α] in
theorem element_map_ofCurve (cs : List (Curve α)) (index : Nat) (h : index < cs.length) :
    element (cs.map Track.ofCurve) index = .ok (Track.ofCurve cs[index]) :=
  element_eq _ _ _ (by rw [List.getElem?_map, List.getElem?_eq_getElem h, Option.map_some])

/-- A search that is cut off at the last child stays on the marks. -/
theorem place_eq (marks : List α) (t : α) (h : 0 < marks.length) :
    ∃ index offset, index < marks.length ∧ place marks.length marks t = .ok (index, offset) ∧
      Chain.placeAmong? marks.toArray t = some (index, offset) := by
  have hindex : min (firstBeyond marks.toArray t) (marks.length - 1) < marks.length :=
    Nat.lt_of_le_of_lt (Nat.min_le_right _ _) (Nat.sub_lt h Nat.one_pos)
  unfold place Chain.placeAmong?
  rw [List.size_toArray, if_neg (Nat.pos_iff_ne_zero.mp h)]
  generalize min (firstBeyond marks.toArray t) (marks.length - 1) = index at hindex
  refine ⟨index, t - (if index = 0 then 0 else marks.toArray[index - 1]?.getD 0), hindex, ?_, rfl⟩
  by_cases hfirst : index = 0
  · simp only [if_pos hfirst]
    rfl
  -- An index that is not the first has a mark in front.
  · have hget := List.getElem?_eq_getElem (show index - 1 < marks.length by omega)
    simp only [if_neg hfirst]
    rw [element_eq _ _ _ hget, List.getElem?_toArray, hget]
    rfl

/-- A chain asks the child that the total one asks, and it is always there. -/
theorem answerer_eq (htame : Tame α) (c : Chain α) (t : α) :
    answerer (c.children.map Track.ofCurve) t
      = .ok ((c.answerer? t).map fun (child, offset) => (Track.ofCurve child, offset)) := by
  unfold answerer Chain.answerer? Chain.answererAmong? Chain.marks Chain.length
  rw [map_length_ofCurve, List.length_map]
  simp only
  by_cases hzero : (total (c.children.map (·.length)) == 0) = true
  · rw [if_pos hzero, if_pos hzero]
    rfl
  · -- The sum of no lengths is zero, so there are children.
    have hpos : 0 < c.children.length := by
      refine List.length_pos_of_ne_nil (fun hnil => hzero ?_)
      rw [hnil]
      exact htame.zero_beq
    rw [if_neg hzero, if_neg hzero]
    -- The ends ask the first child and the last; between them the marks are searched.
    by_cases hlow : t ≤ 0
    · rw [if_pos hlow, if_pos hlow, element_map_ofCurve _ _ hpos, List.getElem?_toArray,
        List.getElem?_eq_getElem hpos]
      rfl
    · rw [if_neg hlow, if_neg hlow]
      by_cases hhigh : total (c.children.map (·.length)) ≤ t
      · have hlast : c.children.length - 1 < c.children.length := by omega
        rw [if_pos hhigh, if_pos hhigh, element_map_ofCurve _ _ hlast, List.size_toArray,
          List.getElem?_toArray, List.getElem?_eq_getElem hlast]
        rfl
      -- There is a mark for each child, so an index on the marks is one of a child.
      · have hmarks : (runningSums (c.children.map (·.length))).length = c.children.length := by
          rw [length_runningSums, List.length_map]
        rcases place_eq (runningSums (c.children.map (·.length))) t (by omega)
          with ⟨index, offset, hindex, hplace, htotal⟩
        rw [hmarks] at hindex hplace
        rw [if_neg hhigh, if_neg hhigh, hplace, ok_bind, htotal, element_map_ofCurve _ _ hindex,
          Option.bind_some, List.getElem?_toArray, List.getElem?_eq_getElem hindex]
        rfl

/-- A chain refuses a pose where the child that it asks does. -/
theorem chainTrack_eq (htame : Tame α) (c : Chain α) :
    chainTrack (c.children.map Track.ofCurve) c.rest = Track.ofCurve c.curve := by
  unfold chainTrack
  rw [map_length_ofCurve]
  refine congrArg (Track.mk c.length) (funext fun t => ?_)
  rw [answerer_eq htame, ok_bind]
  unfold Curve.pose? Chain.curve Chain.answerer?
  simp only
  cases Chain.answererAmong? c.children.toArray c.marks c.length t with
  | none => rfl
  | some asked => rfl

mutual

/-- A path refuses a pose only for the sine of an infinite angle. -/
theorem track_eq (htame : Tame α) : (p : Path α) → track p = Track.ofCurve p.curve
  | .line s => lineTrack_eq s
  | .arc a => arcTrack_eq a
  | .polyline p => by
      -- A polyline is the chain of its chords.
      have hchords : p.chords.map lineTrack = p.chain.children.map Track.ofCurve := by
        rw [Polyline.chain, List.map_map]
        exact List.map_congr_left (fun s _ => lineTrack_eq s)
      rw [track, hchords, chainTrack_eq htame]
      rfl
  | .chain children rest => by
      rw [track, tracks_eq htame children]
      exact chainTrack_eq htame ⟨Path.curves children, rest⟩

theorem tracks_eq (htame : Tame α) :
    (ps : List (Path α)) → tracks ps = (Path.curves ps).map Track.ofCurve
  | [] => rfl
  | p :: ps => by
      rw [tracks, Path.curves, List.map_cons, track_eq htame p, tracks_eq htame ps]

end

/-- What can be sampled over a time, with faults. -/
structure Playback (α : Type) where
  /-- How long it takes. -/
  duration : α
  /-- The sample at a time. -/
  sample : α → Except Fault (Sample α)

/-- A motion as a playback: it refuses what the motion refuses. -/
def Playback.ofMotion (m : Motion α) : Playback α :=
  ⟨m.duration, fun time => refused (m.sample? time)⟩

/-- The fraction of its time that a leg has used. -/
def relativeTime (l : Leg α) (time : α) : Except Fault α :=
  if l.duration == 0 then .ok 1 else do return clamp (← quotient time l.duration) 0 1

/-- The speed by the chain rule. -/
def speedAt (l : Leg α) (length relative : α) : Except Fault α :=
  if l.duration == 0 || length == 0 then .ok 0
  else do quotient ((← slope l.easing relative) * length) l.duration

/-- A leg as a playback. -/
def legPlayback (l : Leg α) : Playback α :=
  let path := track l.path
  ⟨l.duration, fun time => do
    let relative ← relativeTime l time
    let pose ← path.pose ((← progress l.easing relative) * path.length)
    return ⟨pose, ← speedAt l path.length relative⟩⟩

/-- The phase that owns a time, and the time within it. Walking along the marks looks nothing
    up, but the start of the phase is looked up. -/
def locate (durations : List α) (time : α) : Except Fault (Nat × α) := do
  let marks := runningSums durations
  let clamped := clamp time 0 (total durations)
  let index := ownerIndex clamped marks
  let start ← if index = 0 then .ok 0 else element marks (index - 1)
  return (index, clamped - start)

/-- Playbacks back to back. -/
def sequencePlayback (playbacks : List (Playback α)) : Playback α :=
  let durations := playbacks.map (·.duration)
  ⟨total durations, fun time =>
    if playbacks.isEmpty then .ok Sample.atRest
    else do
      let (index, offset) ← locate durations time
      (← element playbacks index).sample offset⟩

mutual

/-- A mover as a playback. -/
def playback : Mover α → Playback α
  | .leg l => legPlayback l
  | .sequence movers => sequencePlayback (playbacks movers)

/-- Several movers as playbacks. -/
def playbacks : List (Mover α) → List (Playback α)
  | [] => []
  | mover :: movers => playback mover :: playbacks movers

end

/-- The time that is used never faults; a leg of no duration has used all of it. -/
theorem relativeTime_eq (l : Leg α) (time : α) :
    relativeTime l time = .ok (l.relativeTime time) := by
  unfold relativeTime Leg.relativeTime
  cases hzero : l.duration == 0 with
  | true => rfl
  | false =>
      rw [quotient_eq _ _ hzero]
      rfl

/-- The speed never faults. -/
theorem speedAt_eq (htame : Tame α) (l : Leg α) (length relative : α) :
    speedAt l length relative = .ok (l.speedAt length relative) := by
  unfold speedAt Leg.speedAt
  rw [slope_eq htame, ok_bind]
  cases hzero : l.duration == 0 with
  | true => rfl
  | false =>
      rw [quotient_eq _ _ hzero]
      cases length == 0 <;> rfl

/-- A leg refuses a sample where its path refuses the pose. -/
theorem legPlayback_eq (htame : Tame α) (l : Leg α) :
    legPlayback l = Playback.ofMotion l.motion := by
  unfold legPlayback
  refine congrArg (Playback.mk l.duration) (funext fun time => ?_)
  rw [track_eq htame, relativeTime_eq, ok_bind, progress_eq htame, ok_bind]
  simp only [Track.ofCurve, speedAt_eq htame]
  unfold Motion.sample? Leg.motion Curve.pose? DomainError.guard
  simp only
  -- Where the pose is refused the speed is not asked for.
  split <;> rfl

/-- Locating a time never looks beyond the marks. -/
theorem locate_eq (durations : List α) (time : α) :
    locate durations time = .ok (PlanarMotion.locate durations time) := by
  unfold locate PlanarMotion.locate
  simp only
  by_cases hfirst : ownerIndex (clamp time 0 (total durations)) (runningSums durations) = 0
  · rw [if_pos hfirst, if_pos hfirst]
    rfl
  · -- An index that is not the first is one of at least two.
    have hlt := ownerIndex_lt (clamp time 0 (total durations)) (runningSums durations)
      (List.length_pos_of_ne_nil (fun hnil => hfirst (by rw [hnil]; rfl)))
    have hget := List.getElem?_eq_getElem (show
      ownerIndex (clamp time 0 (total durations)) (runningSums durations) - 1
        < (runningSums durations).length by omega)
    rw [if_neg hfirst, if_neg hfirst, element_eq _ _ _ hget, hget]
    rfl

/-- A sequence refuses a sample where the phase that owns the time does. -/
theorem sequencePlayback_eq (ms : List (Motion α)) :
    sequencePlayback (ms.map Playback.ofMotion) = Playback.ofMotion (Motion.sequence ms) := by
  have hdurations : (ms.map Playback.ofMotion).map (·.duration) = ms.map (·.duration) := by
    rw [List.map_map]
    rfl
  unfold sequencePlayback
  rw [hdurations]
  refine congrArg (Playback.mk (total (ms.map (·.duration)))) (funext fun time => ?_)
  unfold Motion.sample? Motion.sequence
  simp only [locate_eq, ok_bind]
  cases ms with
  | nil => rfl
  | cons m rest =>
      -- Behind the marks the last phase owns the time, so the index stays within the list.
      have hindex : (PlanarMotion.locate ((m :: rest).map (·.duration)) time).1
          < (m :: rest).length := by
        have hlt := ownerIndex_lt (clamp time 0 (total ((m :: rest).map (·.duration))))
          (runningSums ((m :: rest).map (·.duration)))
        rw [length_runningSums, List.length_map] at hlt
        exact hlt (Nat.succ_pos _)
      have hget := List.getElem?_eq_getElem hindex
      rw [hget, element_eq _ _ _ (by rw [List.getElem?_map, hget, Option.map_some])]
      rfl

mutual

/-- A mover refuses a sample only for the sine of an infinite angle. -/
theorem playback_eq (htame : Tame α) : (m : Mover α) → playback m = Playback.ofMotion m.motion
  | .leg l => legPlayback_eq htame l
  | .sequence movers => by
      rw [playback, playbacks_eq htame movers]
      exact sequencePlayback_eq (Mover.motions movers)

theorem playbacks_eq (htame : Tame α) :
    (ms : List (Mover α)) → playbacks ms = (Mover.motions ms).map Playback.ofMotion
  | [] => rfl
  | m :: ms => by
      rw [playbacks, Mover.motions, List.map_cons, playback_eq htame m, playbacks_eq htame ms]

end

end Checked

end PlanarMotion
