import PlanarMotion.Mover
import PlanarMotion.Proofs.Path.Lookup
import PlanarMotion.Proofs.Path.Tracks

/-!
# Finding the Owner of a Time

A sequence of motions finds the one that owns a time as a chain of curves finds the one that owns
a distance, but by another rule: a time at which one motion ends and another starts belongs to the
earlier one, and times before the start and after the end are moved to these first. What is found
is again described by splitting the list, and again this holds of any numbers that can be measured
with. If the motions meet, then over the real numbers the other rule gives the same places, and the
sequence is the join of its motions.

## Main definitions

* `Motion.track`: The places of a motion.

## Theorems

* `ownerIndex_append`: What the search for a mark finds.
* `Measures.clamp_mem`, `Measures.clamp_le_clamp`: Clamping of any numbers, in order or not.
* `Measures.exists_time_owner`: Every time within a total has an owner.
* `Measures.ownerIndex_owner`, `Measures.locate_owner`: The search finds it.
* `locate_clamp`: Times outside count as the ends.
* `Motion.sequence_asked`: A sequence asks the motion that is found.
* `Motion.place_sequence`: A sequence of motions that meet is their join.
-/

namespace PlanarMotion

open Scalar

/-- The search finds the first mark at or beyond a time. -/
theorem ownerIndex_append {α : Type} [Scalar α] (front back : List α) (mark time : α)
    (hfront : ∀ m ∈ front, m < time) (hmark : ¬ mark < time) :
    ownerIndex time (front ++ mark :: back) = front.length := by
  induction front with
  | nil =>
      cases back with
      | nil => rfl
      | cons next back => exact if_neg hmark
  | cons m front ih =>
      rw [List.forall_mem_cons] at hfront
      -- The search goes on only if there is another mark, and there is the one looked for.
      rcases List.exists_cons_of_ne_nil (List.append_ne_nil_of_right_ne_nil front
        (List.cons_ne_nil mark back)) with ⟨next, marks, hmarks⟩
      rw [List.cons_append, hmarks, ownerIndex, if_pos hfront.1, ← hmarks, ih hfront.2,
        List.length_cons]

namespace Measures

variable {α : Type} [Scalar α] (hα : Measures α) {a : α}

include hα

/-- What is clamped between zero and a length is between them, also if it is not a number. -/
theorem clamp_mem (t : α) (ha : 0 ≤ a) : 0 ≤ clamp t 0 a ∧ clamp t 0 a ≤ a := by
  have hpart : lesser a t ≤ a := by
    unfold lesser
    by_cases h : t < a
    · rw [if_pos h]
      exact hα.le_of_lt h
    -- A comparison that fails may be one with no number, and the length is taken then.
    · rw [if_neg h]
      exact hα.le_refl ha
  unfold clamp greater
  by_cases h : 0 < lesser a t
  · rw [if_pos h]
    exact ⟨hα.le_of_lt h, hpart⟩
  · rw [if_neg h]
    exact ⟨hα.zero_le, ha⟩

/-- Clamping keeps the order of two numbers. -/
theorem clamp_le_clamp (s t : α) (ha : 0 ≤ a) (h : s ≤ t) : clamp s 0 a ≤ clamp t 0 a := by
  by_cases hinside : t < a
  -- Below the upper end both are compared with zero alone.
  · have hbefore : s < a := hα.lt_of_le_of_lt h hinside
    unfold clamp greater lesser
    rw [if_pos hinside, if_pos hbefore]
    by_cases hpos : 0 < s
    · rw [if_pos hpos, if_pos (hα.lt_of_lt_of_le hpos h)]
      exact h
    · rw [if_neg hpos]
      by_cases hpos' : 0 < t
      · rw [if_pos hpos']
        exact hα.le_of_lt hpos'
      · rw [if_neg hpos']
        exact hα.zero_le
  · -- The greater one counts as the upper end, which nothing exceeds that is clamped.
    have hmem := hα.clamp_mem s ha
    have hend : a ≤ clamp t 0 a := by
      unfold clamp lesser greater
      rw [if_neg hinside]
      by_cases hpos : 0 < a
      · rw [if_pos hpos]
        exact hα.le_refl ha
      · rw [if_neg hpos]
        exact (hα.lt_or_le hα.zero_le ha).resolve_left hpos
    exact hα.le_trans hmem.2 hend

variable {β : Type}

/-- If the total is counted from a start, then every time within it has an owner as well. -/
theorem exists_time_owner_from (xs : List β) (duration : β → α) (start t : α) (hne : xs ≠ [])
    (hstart : 0 ≤ start) (h : ∀ x ∈ xs, 0 ≤ duration x) (hpos : 0 ≤ t)
    (hhigh : t ≤ (xs.map duration).foldl (· + ·) start) : ∃ front x back, xs = front ++ x :: back ∧
      (front = [] ∨ (front.map duration).foldl (· + ·) start < t) ∧
      t ≤ (front.map duration).foldl (· + ·) start + duration x := by
  induction xs generalizing start with
  | nil => exact absurd rfl hne
  | cons x xs ih =>
      rw [List.forall_mem_cons] at h
      have hnext := hα.add_nonneg hstart h.1
      rw [List.map_cons, List.foldl_cons] at hhigh
      -- The first one is the owner, or it ends before.
      rcases hα.lt_or_le hnext hpos with hafter | hown
      · have hrest : xs ≠ [] := by
          rintro rfl
          exact hα.not_le_of_lt hafter hhigh
        rcases ih (start + duration x) hrest hnext h.2 hhigh with
          ⟨front, y, back, hxs, hlow, hhigh'⟩
        refine ⟨x :: front, y, back, by rw [hxs, List.cons_append], Or.inr ?_, hhigh'⟩
        rcases hlow with rfl | hlow
        · exact hafter
        · exact hlow
      · exact ⟨[], x, xs, rfl, Or.inl rfl, hown⟩

/-- Every time within a total has an owner, to which its end belongs. -/
theorem exists_time_owner (xs : List β) (duration : β → α) (t : α) (hne : xs ≠ [])
    (h : ∀ x ∈ xs, 0 ≤ duration x) (hpos : 0 ≤ t) (hhigh : t ≤ total (xs.map duration)) :
    ∃ front x back, xs = front ++ x :: back ∧
      (front = [] ∨ total (front.map duration) < t) ∧ t ≤ total (front.map duration) + duration x :=
  hα.exists_time_owner_from xs duration 0 t hne hα.zero_le h hpos hhigh

/-- The search among the marks finds the owner of a time. -/
theorem ownerIndex_owner (front back : List α) (d t : α) (hnonneg : ∀ x ∈ front, 0 ≤ x)
    (hlow : front = [] ∨ total front < t) (hhigh : t ≤ total front + d) :
    ownerIndex t (runningSums (front ++ d :: back)) = front.length := by
  -- All marks in front are before the time, so the search passes them.
  have hbelow : ∀ m ∈ runningSums front, m < t := by
    intro m hm
    rcases hlow with rfl | hlow
    · cases hm
    · exact hα.lt_of_le_of_lt (hα.bounds_of_mem_runningSums front hnonneg m hm).2 hlow
  rw [runningSums_split, ownerIndex_append _ _ _ _ hbelow (fun h => hα.not_le_of_lt h hhigh),
    length_runningSums]

/-- The owner of a time gets what the phases in front leave of it. -/
theorem locate_owner (front back : List α) (d t : α) (hnonneg : ∀ x ∈ front, 0 ≤ x)
    (hlow : front = [] ∨ total front < clamp t 0 (total (front ++ d :: back)))
    (hhigh : clamp t 0 (total (front ++ d :: back)) ≤ total front + d) :
    locate (front ++ d :: back) t
      = (front.length, clamp t 0 (total (front ++ d :: back)) - total front) := by
  have howner := hα.ownerIndex_owner front back d _ hnonneg hlow hhigh
  have hstart := getElem?_mark_before front
    ((total front + d) :: runningSumsFrom (total front + d) back)
  rw [← runningSums_split] at hstart
  unfold locate
  simp only [howner, hstart]

end Measures

/-- Times outside a schedule count as its ends. -/
theorem locate_clamp (durations : List ℝ) (t : ℝ) :
    locate durations t = locate durations (clamp t 0 (total durations)) := by
  unfold locate
  have hagain : clamp (clamp t 0 (total durations)) 0 (total durations)
      = clamp t 0 (total durations) := by
    rw [clamp_eq, clamp_eq]
    -- If the total were negative, then all times would count as the start.
    rcases le_total 0 (total durations) with hle | hle
    · rw [min_eq_right (max_le hle (min_le_left _ _)), max_eq_right (le_max_left _ _)]
    · rw [max_eq_left ((min_le_left _ _).trans hle), max_eq_left ((min_le_left _ _).trans hle)]
  simp only [hagain]

/-- A sequence asks the motion that the search finds, for the time that is left. -/
theorem Motion.sequence_asked {α : Type} [Scalar α] (motions : List (Motion α)) (m : Motion α)
    (t : α) (h : motions[(locate (motions.map (·.duration)) t).1]? = some m) :
    (sequence motions).sample t = m.sample (locate (motions.map (·.duration)) t).2 ∧
      (sequence motions).defined t = m.defined (locate (motions.map (·.duration)) t).2 := by
  unfold sequence
  simp only [h]
  exact ⟨trivial, trivial⟩

/-- The places of a motion. -/
def Motion.track (m : Motion ℝ) : Track where
  length := m.duration
  place t := (m.sample t).pose.position

namespace Motion

variable {a b : Vec ℝ}

theorem sum_length_tracks (motions : List (Motion ℝ)) :
    ((motions.map track).map Track.length).sum = (motions.map (·.duration)).sum := by
  rw [List.map_map]
  rfl

theorem length_sequence (motions : List (Motion ℝ)) :
    (sequence motions).duration = (motions.map (·.duration)).sum :=
  total_eq_sum _

/-- A sequence samples the motion that owns a time. -/
theorem sample_sequence (front back : List (Motion ℝ)) (m : Motion ℝ) (t offset : ℝ)
    (h : locate ((front ++ m :: back).map (·.duration)) t = (front.length, offset)) :
    (sequence (front ++ m :: back)).sample t = m.sample offset := by
  have hasked := sequence_asked (front ++ m :: back) m t
    (by rw [h]; exact getElem?_split front back m)
  rw [hasked.1, h]

/-- Within its time a sequence of motions that meet is the join of their places. -/
theorem place_sequence_of_mem (motions : List (Motion ℝ)) (hne : motions ≠ [])
    (h : Linked a (motions.map track) b) (t : ℝ) (hlow : 0 ≤ t)
    (hhigh : t ≤ (sequence motions).duration) :
    (sequence motions).track.place t = (Track.joined b (motions.map track)).place t := by
  have hdurations : ∀ m ∈ motions, 0 ≤ m.duration :=
    fun m hm => h.length_nonneg m.track (List.mem_map_of_mem hm)
  rcases measures_real.exists_time_owner motions (·.duration) t hne hdurations hlow hhigh with
    ⟨front, m, back, rfl, hbefore, hafter⟩
  have hclamp : clamp t 0 (total (front.map (·.duration) ++ m.duration :: back.map (·.duration)))
      = t := by
    rw [← List.map_cons, ← List.map_append]
    exact clamp_of_mem t 0 _ hlow hhigh
  rw [List.forall_mem_append] at hdurations
  have hlocate := measures_real.locate_owner (front.map (·.duration)) (back.map (·.duration))
    m.duration t (List.forall_mem_map.mpr hdurations.1)
    (by rw [hclamp]; exact hbefore.imp_left List.map_eq_nil_iff.mpr) (by rw [hclamp]; exact hafter)
  rw [hclamp, ← List.map_cons, ← List.map_append, List.length_map] at hlocate
  rw [total_eq_sum] at hlocate hbefore hafter
  have hplace : (sequence (front ++ m :: back)).track.place t
      = m.track.place (t - (front.map (·.duration)).sum) :=
    congrArg (·.pose.position) (sample_sequence front back m t _ hlocate)
  -- The owner of the time is the part of the join that owns it.
  have hfront := sum_length_tracks front
  have hstart : ((front.map track).map Track.length).sum ≤ t := by
    rw [hfront]
    rcases hbefore with rfl | hbefore
    · exact hlow
    · exact hbefore.le
  rw [List.map_append, List.map_cons] at h ⊢
  rw [hplace, h.place_joined t hstart (hfront ▸ hafter), hfront]

/-- A sequence of motions that meet has the places of these, one after the other. -/
theorem place_sequence (motions : List (Motion ℝ)) (hne : motions ≠ [])
    (h : Linked a (motions.map track) b) (t : ℝ) :
    (sequence motions).track.place t = (Track.joined b (motions.map track)).place t := by
  have hlength : (sequence motions).duration = ((motions.map track).map Track.length).sum := by
    rw [length_sequence, sum_length_tracks]
  have hjoined := Linked.length_joined b (motions.map track)
  have hnonneg : 0 ≤ (sequence motions).duration := by
    rw [hlength]
    exact h.sum_nonneg
  have hclamp : (sequence motions).track.place t
      = (sequence motions).track.place (clamp t 0 (sequence motions).duration) := by
    simp only [track, sequence]
    rw [locate_clamp]
  rw [hclamp]
  -- Outside its time a sequence stays at its ends, and so does the join.
  rcases le_or_gt t 0 with hbefore | hafter
  · rw [clamp_of_le t 0 _ hbefore, place_sequence_of_mem motions hne h 0 (le_refl _) hnonneg,
      h.leads.first 0 (le_refl _), h.leads.first t hbefore]
  rcases le_or_gt (sequence motions).duration t with hbeyond | hinside
  · rw [clamp_of_ge t 0 _ hnonneg hbeyond,
      place_sequence_of_mem motions hne h _ hnonneg (le_refl _), h.leads.last _ (by linarith),
      h.leads.last t (by linarith)]
  · rw [clamp_of_mem t 0 _ hafter.le hinside.le]
    exact place_sequence_of_mem motions hne h t hafter.le hinside.le

end Motion

end PlanarMotion
