import PlanarMotion.Proofs.Motion.Phases
import PlanarMotion.Proofs.Number.Sums
import Mathlib.Order.Bounds.Basic

/-!
# Every Time Has One Owner

What a sequence's search is for, said in terms of the marks that it looks through. A phase owns the
times behind its start, up to its mark and with it, so a boundary belongs to the phase that ends
there. Every time behind the start of the sequence and up to its end has one owner. The search stops
one short of the last mark, and it is given times that have been moved into the sequence; so what it
finds is the first mark at or beyond the time, also where several phases end at once, and there is
always one. It does not go back as time passes. A phase without duration is not found, unless it is
the first, which is found for the start.

All this holds of doubles, whose sums are rounded and may be infinite, and for a time that is not a
number, which counts as the end. Over the real numbers the phase is asked for a time within its
duration.

## Main definitions

* `phaseStart`, `OwnsTime`: The times that belong to a phase.
* `FindsPhases`: A search among phases finds the owner of each time.
* `Mover.AsksPhases`: A sequence asks the mover that the search finds.

## Theorems

* `ownsTime_iff`: Ownership, where the durations are split at the owner.
* `Measures.exists_located`: What the search finds, where the durations are split there.
* `Measures.findsPhases`: Sequences of movers whose durations are measured find owners.
* `findsPhases_doubles_reals`: So do those of doubles and those of real numbers.
-/

namespace PlanarMotion

open Scalar

section Measured

variable {α : Type} [Scalar α]

/-- Where a phase starts: at the mark in front of its own. -/
def phaseStart (durations : List α) (i : Nat) : α :=
  if i = 0 then 0 else (runningSums durations)[i - 1]?.getD 0

/-- A phase owns the times behind its start, up to its mark and with it. -/
def OwnsTime (durations : List α) (i : Nat) (t : α) : Prop :=
  ∃ mark, (runningSums durations)[i]? = some mark ∧ phaseStart durations i < t ∧ t ≤ mark

/-- A search among phases finds the owner of each time, once the time has been moved into the
    sequence. -/
structure FindsPhases (durations : List α) : Prop where
  /-- A phase starts behind the durations of those in front of it. -/
  starts : ∀ i < durations.length, phaseStart durations i = total (durations.take i)
  /-- The time that is looked for lies in the sequence. -/
  within : ∀ t, 0 ≤ clamp t 0 (total durations) ∧ clamp t 0 (total durations) ≤ total durations
  /-- The search finds the first mark at or beyond it. -/
  least : ∀ t, IsLeast {i | ∃ mark, (runningSums durations)[i]? = some mark ∧
    clamp t 0 (total durations) ≤ mark} (locate durations t).1
  /-- What is left is what the phases in front do not take. -/
  rest : ∀ t, (locate durations t).2
    = clamp t 0 (total durations) - phaseStart durations (locate durations t).1
  /-- The phases own the times behind the start and up to the end. -/
  cover : ∀ t, (∃ i, OwnsTime durations i t) ↔ 0 < t ∧ t ≤ total durations
  /-- No time has two owners. -/
  disjoint : ∀ i j t, OwnsTime durations i t → OwnsTime durations j t → i = j
  /-- As time passes the search does not go back. -/
  monotone : ∀ s t, s ≤ t → (locate durations s).1 ≤ (locate durations t).1
  /-- It finds no phase without duration, except for the first. -/
  busy : ∀ t d, (locate durations t).1 ≠ 0 → durations[(locate durations t).1]? = some d → 0 < d

namespace Mover

/-- How long movers take. -/
def durations (movers : List (Mover α)) : List α :=
  movers.map duration

/-- A sequence asks the mover that the search finds, for the time that is left. -/
def AsksPhases (movers : List (Mover α)) : Prop :=
  ∀ t, ∃ m, movers[(locate (durations movers) t).1]? = some m ∧
    (Mover.sequence movers).sample? t = m.sample? (locate (durations movers) t).2

theorem durations_ne_nil (movers : List (Mover α)) (h : movers ≠ []) : durations movers ≠ [] :=
  fun hnil => h (List.map_eq_nil_iff.mp hnil)

end Mover

section Split

variable (front back : List α) (d : α)

theorem phaseStart_length : phaseStart (front ++ d :: back) front.length = total front := by
  rw [phaseStart, runningSums_split]
  exact getElem?_mark_before front _

/-- Ownership, where the durations are split at the owner. -/
theorem ownsTime_iff (t : α) : OwnsTime (front ++ d :: back) front.length t ↔
    total front < t ∧ t ≤ total front + d := by
  rw [OwnsTime, getElem?_runningSums_split, phaseStart_length]
  constructor
  · rintro ⟨mark, hsome, hlow, hhigh⟩
    rw [← Option.some.inj hsome] at hhigh
    exact ⟨hlow, hhigh⟩
  · rintro ⟨hlow, hhigh⟩
    exact ⟨_, rfl, hlow, hhigh⟩

end Split

theorem phaseStart_eq (durations : List α) (i : Nat) (hi : i < durations.length) :
    phaseStart durations i = total (durations.take i) := by
  have hstart := phaseStart_length (durations.take i) (durations.drop (i + 1)) durations[i]
  rwa [List.getElem_cons_drop, List.take_append_drop, List.length_take, Nat.min_eq_left hi.le]
    at hstart

/-- The one who has a mark has a place among the durations. -/
theorem exists_split_of_mark (durations : List α) (i : Nat) (mark : α)
    (h : (runningSums durations)[i]? = some mark) :
    ∃ front d back, durations = front ++ d :: back ∧ front.length = i := by
  have hi := (List.getElem?_eq_some_iff.mp h).1
  rw [length_runningSums] at hi
  refine ⟨durations.take i, durations[i], durations.drop (i + 1), ?_, ?_⟩
  · rw [List.getElem_cons_drop, List.take_append_drop]
  · rw [List.length_take, Nat.min_eq_left hi.le]

namespace Mover

variable (movers : List (Mover α)) (t : α)

/-- There is always a phase to be asked. -/
theorem exists_asked (hne : movers ≠ []) :
    ∃ m, movers[(locate (durations movers) t).1]? = some m := by
  -- There is a mark for each mover.
  have hlength : (runningSums (durations movers)).length = movers.length := by
    rw [length_runningSums, durations, List.length_map]
  have hindex : (locate (durations movers) t).1 < movers.length := by
    rw [← hlength]
    exact ownerIndex_lt _ _ (by rw [hlength]; exact List.length_pos_of_ne_nil hne)
  exact ⟨_, List.getElem?_eq_getElem hindex⟩

/-- It is asked for the time that is left. -/
theorem motion_asked (m : Mover α) (h : movers[(locate (durations movers) t).1]? = some m) :
    (Mover.sequence movers).sample t = m.sample (locate (durations movers) t).2 ∧
      (Mover.sequence movers).motion.defined t
        = m.motion.defined (locate (durations movers) t).2 := by
  have hmotions : (motions movers).map (·.duration) = durations movers := by
    rw [motions_eq_map, List.map_map]
    rfl
  have hasked := Motion.sequence_asked (motions movers) m.motion t
    (by rw [hmotions, motions_eq_map, List.getElem?_map, h, Option.map_some])
  rw [hmotions] at hasked
  exact hasked

/-- Sampling a sequence is sampling the mover that the search finds. -/
theorem asksPhases (hne : movers ≠ []) : AsksPhases movers := by
  intro t
  rcases exists_asked movers t hne with ⟨m, hm⟩
  rcases motion_asked movers t m hm with ⟨hsample, hdefined⟩
  rw [sample] at hsample
  refine ⟨m, hm, ?_⟩
  -- The answer and whether it is refused are both those of the mover.
  rw [sample?, Motion.sample?, hsample, hdefined]
  rfl

end Mover

namespace Measures

variable (hα : Measures α) (durations : List α) (hnonneg : ∀ d ∈ durations, 0 ≤ d)

include hα hnonneg

/-- What the search finds, where the durations are split there. -/
theorem exists_located (hne : durations ≠ []) (t : α) : ∃ front d back,
    durations = front ++ d :: back ∧ (front = [] ∨ total front < clamp t 0 (total durations)) ∧
      clamp t 0 (total durations) ≤ total front + d ∧
      locate durations t = (front.length, clamp t 0 (total durations) - total front) := by
  rcases hα.clamp_mem t (hα.total_nonneg durations hnonneg) with ⟨hpos, hhigh⟩
  rcases hα.exists_time_owner durations id _ hne hnonneg hpos (by rw [List.map_id]; exact hhigh)
    with ⟨front, d, back, rfl, hlow, hhigh⟩
  rw [List.map_id] at hlow hhigh
  exact ⟨front, d, back, rfl, hlow, hhigh, hα.locate_owner front back d t
    (List.forall_mem_append.mp hnonneg).1 hlow hhigh⟩

omit hnonneg in
/-- The marks of the phases in front are not beyond a start. -/
theorem mark_le_total (front back : List α) (d : α) (hnonneg : ∀ x ∈ front, 0 ≤ x) (i : Nat)
    (hi : i < front.length) (mark : α)
    (hmark : (runningSums (front ++ d :: back))[i]? = some mark) : mark ≤ total front := by
  rw [runningSums_split, List.getElem?_append_left (by rw [length_runningSums]; exact hi)] at hmark
  exact (hα.bounds_of_mem_runningSums front hnonneg mark (List.mem_of_getElem? hmark)).2

/-- The search finds the first mark at or beyond a time. -/
theorem isLeast_locate (hne : durations ≠ []) (t : α) :
    IsLeast {i | ∃ mark, (runningSums durations)[i]? = some mark ∧
      clamp t 0 (total durations) ≤ mark} (locate durations t).1 := by
  rcases hα.exists_located durations hnonneg hne t with
    ⟨front, d, back, hsplit, hlow, hhigh, hlocate⟩
  rw [hlocate]
  constructor
  · exact ⟨total front + d, by rw [hsplit, getElem?_runningSums_split], hhigh⟩
  · -- A mark in front is not beyond the start, which the time is.
    rintro i ⟨mark, hmark, hle⟩
    by_contra hbefore
    have hi := Nat.lt_of_not_le hbefore
    rcases hlow with rfl | hlow
    · exact absurd hi (Nat.not_lt_zero i)
    · rw [hsplit] at hmark hnonneg
      have hmark' := hα.mark_le_total front back d (List.forall_mem_append.mp hnonneg).1 i hi mark
        hmark
      exact hα.not_le_of_lt hlow (hα.le_trans hle hmark')

/-- The search finds whoever owns a time. -/
theorem ownerIndex_of_owns (i : Nat) (t : α) (h : OwnsTime durations i t) :
    ownerIndex t (runningSums durations) = i := by
  rcases h with ⟨mark, hmark, hbounds⟩
  -- The durations are split at the owner, whose bounds are those that the search looks for.
  rcases exists_split_of_mark durations i mark hmark with ⟨front, d, back, rfl, rfl⟩
  rcases (ownsTime_iff front back d t).mp ⟨mark, hmark, hbounds⟩ with ⟨hlow, hhigh⟩
  exact hα.ownerIndex_owner front back d t (List.forall_mem_append.mp hnonneg).1 (Or.inr hlow)
    hhigh

/-- The times that are owned are those behind the start and up to the end. -/
theorem exists_owns_iff (t : α) :
    (∃ i, OwnsTime durations i t) ↔ 0 < t ∧ t ≤ total durations := by
  constructor
  · rintro ⟨i, mark, hmark, hbounds⟩
    have hend := (hα.bounds_of_mem_runningSums durations hnonneg mark (List.mem_of_getElem? hmark)).2
    rcases exists_split_of_mark durations i mark hmark with ⟨front, d, back, rfl, rfl⟩
    have hstart := hα.total_nonneg front (List.forall_mem_append.mp hnonneg).1
    rw [phaseStart_length] at hbounds
    exact ⟨hα.lt_of_le_of_lt hstart hbounds.1, hα.le_trans hbounds.2 hend⟩
  · rintro ⟨hpos, hhigh⟩
    -- Without phases the total is zero, and there is no time to own.
    have hne : durations ≠ [] := by
      rintro rfl
      exact hα.not_le_of_lt hpos hhigh
    rcases hα.exists_time_owner durations id t hne hnonneg (hα.le_of_lt hpos)
      (by rw [List.map_id]; exact hhigh) with ⟨front, d, back, rfl, hlow, hown⟩
    rw [List.map_id] at hlow hown
    -- Behind the start even the first phase owns the time with its lower bound.
    refine ⟨front.length, (ownsTime_iff front back d t).mpr ⟨?_, hown⟩⟩
    rcases hlow with rfl | hlow
    · exact hpos
    · exact hlow

/-- The search does not go back, since the mark that it finds for a later time is beyond an earlier
    time as well. -/
theorem locate_mono (hne : durations ≠ []) (s t : α) (h : s ≤ t) :
    (locate durations s).1 ≤ (locate durations t).1 := by
  have hclamp := hα.clamp_le_clamp s t (hα.total_nonneg durations hnonneg) h
  rcases (hα.isLeast_locate durations hnonneg hne t).1 with ⟨mark, hmark, hle⟩
  exact (hα.isLeast_locate durations hnonneg hne s).2 ⟨mark, hmark, hα.le_trans hclamp hle⟩

/-- A phase that is found and is not the first has a duration, as it takes the time from its start
    on. -/
theorem pos_of_located (hne : durations ≠ []) (t d : α) (hindex : (locate durations t).1 ≠ 0)
    (hd : durations[(locate durations t).1]? = some d) : 0 < d := by
  rcases hα.exists_located durations hnonneg hne t with
    ⟨front, x, back, hsplit, hlow, hhigh, hlocate⟩
  rw [hlocate] at hindex hd
  rw [hsplit, getElem?_split, Option.some.injEq] at hd
  rw [hsplit, List.forall_mem_append, List.forall_mem_cons] at hnonneg
  rw [← hd]
  refine hα.pos_of_lt_add (hα.total_nonneg front hnonneg.1) hnonneg.2.1 ?_
  rcases hlow with rfl | hlow
  · exact absurd rfl hindex
  · exact hα.lt_of_lt_of_le hlow hhigh

/-- A search among phases whose durations are measured finds the owners of times. -/
theorem findsPhases (hne : durations ≠ []) : FindsPhases durations where
  starts := phaseStart_eq durations
  within t := hα.clamp_mem t (hα.total_nonneg durations hnonneg)
  least := hα.isLeast_locate durations hnonneg hne
  rest := by
    intro t
    rcases hα.exists_located durations hnonneg hne t with ⟨front, d, back, hsplit, -, -, hlocate⟩
    rw [hlocate, hsplit, phaseStart_length]
  cover := hα.exists_owns_iff durations hnonneg
  disjoint i j t hi hj := (hα.ownerIndex_of_owns durations hnonneg i t hi).symm.trans
    (hα.ownerIndex_of_owns durations hnonneg j t hj)
  monotone := hα.locate_mono durations hnonneg hne
  busy := hα.pos_of_located durations hnonneg hne

end Measures

end Measured

/-- If no number is rounded, then a phase is asked for a time within its duration, and a later one
    for a time behind its start. -/
theorem locate_mem (durations : List ℝ) (hne : durations ≠ []) (hnonneg : ∀ d ∈ durations, 0 ≤ d)
    (t d : ℝ) (hd : durations[(locate durations t).1]? = some d) :
    0 ≤ (locate durations t).2 ∧ (locate durations t).2 ≤ d ∧
      ((locate durations t).1 ≠ 0 → 0 < (locate durations t).2) := by
  have hclamp := measures_real.clamp_mem t (measures_real.total_nonneg durations hnonneg)
  rcases measures_real.exists_located durations hnonneg hne t with
    ⟨front, x, back, hsplit, hlow, hhigh, hlocate⟩
  rw [hlocate] at hd ⊢
  rw [hsplit, getElem?_split, Option.some.injEq] at hd
  rw [← hd]
  refine ⟨?_, sub_le_iff_le_add'.mpr hhigh, fun hindex => ?_⟩
  · rcases hlow with rfl | hlow
    -- The first phase may be asked for its start.
    · have hzero : total ([] : List ℝ) = 0 := rfl
      rw [hzero, sub_zero]
      exact hclamp.1
    · exact (sub_pos.mpr hlow).le
  · rcases hlow with rfl | hlow
    · exact absurd rfl hindex
    · exact sub_pos.mpr hlow

/-- Sequences of movers find the phases that own times, in doubles and in real numbers. In real
    numbers the phase is asked for a time within its duration, which is behind its start if it is
    not the first. -/
theorem findsPhases_doubles_reals :
    (∀ movers : List (Mover Float), movers ≠ [] → (∀ m ∈ movers, 0 ≤ m.duration) →
      FindsPhases (Mover.durations movers) ∧ Mover.AsksPhases movers) ∧
    (∀ movers : List (Mover ℝ), movers ≠ [] → (∀ m ∈ movers, 0 ≤ m.duration) →
      FindsPhases (Mover.durations movers) ∧ Mover.AsksPhases movers ∧
        ∀ t d, (Mover.durations movers)[(locate (Mover.durations movers) t).1]? = some d →
          0 ≤ (locate (Mover.durations movers) t).2 ∧ (locate (Mover.durations movers) t).2 ≤ d ∧
            ((locate (Mover.durations movers) t).1 ≠ 0 →
              0 < (locate (Mover.durations movers) t).2)) := by
  constructor
  · intro movers hne hnonneg
    exact ⟨Number.measures_float.findsPhases _ (List.forall_mem_map.mpr hnonneg)
      (Mover.durations_ne_nil movers hne), Mover.asksPhases movers hne⟩
  · intro movers hne hnonneg
    have hdurations : ∀ d ∈ Mover.durations movers, 0 ≤ d := List.forall_mem_map.mpr hnonneg
    have hsome := Mover.durations_ne_nil movers hne
    exact ⟨measures_real.findsPhases _ hdurations hsome, Mover.asksPhases movers hne,
      locate_mem _ hsome hdurations⟩

/-- A wait of a given duration. -/
def Mover.waiting {α : Type} [Scalar α] (duration : α) : Mover α :=
  .leg ⟨.chain [] ⟨Vec.zero, Vec.unitX⟩, duration, .uniform⟩

/-- Two waits, with phases in front of, between and behind them that are over at once. -/
def Mover.waits (α : Type) [Scalar α] : List (Mover α) :=
  [waiting 0, waiting 1, waiting 0, waiting 1, waiting 0]

/-- The waits are sequences of this kind, in doubles and in real numbers. -/
theorem findsPhases_waits :
    FindsPhases (Mover.durations (Mover.waits Float)) ∧
      FindsPhases (Mover.durations (Mover.waits ℝ)) := by
  have hdoubles : ∀ m ∈ Mover.waits Float, 0 ≤ m.duration := by
    have hzero : (0 : Float) ≤ 0 := by decide +kernel
    have hone : (0 : Float) ≤ 1 := by decide +kernel
    simp only [Mover.waits, List.forall_mem_cons]
    exact ⟨hzero, hone, hzero, hone, hzero, List.forall_mem_nil _⟩
  have hreals : ∀ m ∈ Mover.waits ℝ, 0 ≤ m.duration := by
    have hzero : (0 : ℝ) ≤ 0 := le_refl 0
    have hone : (0 : ℝ) ≤ 1 := zero_le_one
    simp only [Mover.waits, List.forall_mem_cons]
    exact ⟨hzero, hone, hzero, hone, hzero, List.forall_mem_nil _⟩
  exact ⟨(findsPhases_doubles_reals.1 _ (List.cons_ne_nil _ _) hdoubles).1,
    (findsPhases_doubles_reals.2 _ (List.cons_ne_nil _ _) hreals).1⟩

end PlanarMotion
