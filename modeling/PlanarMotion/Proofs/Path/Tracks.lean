import PlanarMotion.Proofs.Plane.Distance

/-!
# Tracks

A curve gives a place for each distance, and a motion one for each time. Both are put together
from parts that are used up one after the other, by different rules: where two parts meet, a path
asks the later one and a motion the earlier one. Neither rule matters if the parts meet in one
point. So there is one account of putting together for both, `Track.joined`, and it goes by
recursion on the list of parts. That it agrees with a lookup is `Linked.place_joined`, which is
about a part that owns a number up to both of its ends.

A track leads from one point to another if it stays at these points beyond its ends. What makes
a motion free of jumps is then kept by joining two tracks that meet: a track is steady if it
moves at most as far as the number does, and it is unbroken if its coordinates are continuous.

## Main definitions

* `Track`: A length, and a place for each number.
* `Track.Leads`: Where a track starts and ends.
* `Track.Steady`, `Track.Unbroken`: Tracks without jumps.
* `Track.append`, `Track.joined`: Tracks end to end.
* `Linked`: Tracks that meet.

## Theorems

* `Track.Leads.append`, `Track.Steady.append`, `Track.Unbroken.append`: Two tracks end to end.
* `Linked.leads`, `Linked.steady`, `Linked.unbroken`: Several tracks end to end.
* `Linked.isChain`: Where linked tracks meet.
* `Linked.place_joined`: The owner of a number tells its place.
-/

namespace PlanarMotion

/-- Places along a way. -/
structure Track where
  /-- How long it is, in distance or time. -/
  length : ℝ
  /-- The place at each number. -/
  place : ℝ → Vec ℝ

namespace Track

/-- A track starts at one point and ends at another, and stays there beyond its ends. -/
structure Leads (f : Track) (a b : Vec ℝ) : Prop where
  /-- It is not of negative length. -/
  nonneg : 0 ≤ f.length
  /-- Where it starts. -/
  first : ∀ t ≤ 0, f.place t = a
  /-- Where it ends. -/
  last : ∀ t, f.length ≤ t → f.place t = b

/-- The place moves at most as far as the number. -/
def Steady (f : Track) : Prop :=
  ∀ s t, s ≤ t → (f.place t - f.place s).length ≤ t - s

/-- The coordinates of the place are continuous. -/
def Unbroken (f : Track) : Prop :=
  (Continuous fun t => (f.place t).x) ∧ Continuous fun t => (f.place t).y

/-- One track behind another. -/
noncomputable def append (f g : Track) : Track where
  length := f.length + g.length
  place t := if t < f.length then f.place t else g.place (t - f.length)

/-- Several tracks end to end, and then a stop. -/
noncomputable def joined (stop : Vec ℝ) (fs : List Track) : Track :=
  fs.foldr append ⟨0, fun _ => stop⟩

/-- The order of two numbers does not matter for the distance of their places. -/
theorem Steady.length_sub_le {f : Track} (h : f.Steady) (s t : ℝ) :
    (f.place t - f.place s).length ≤ |t - s| := by
  rcases le_total s t with hle | hle
  · exact (h s t hle).trans (le_abs_self _)
  · have hback := h t s hle
    have hsame : (f.place t - f.place s).length = (f.place s - f.place t).length := by
      rw [Vec.length_eq, Vec.length_eq, Vec.sub_x, Vec.sub_y, Vec.sub_x, Vec.sub_y,
        ← neg_sub (f.place s).x, ← neg_sub (f.place s).y, neg_sq, neg_sq]
    rw [hsame, abs_sub_comm]
    exact hback.trans (le_abs_self _)

/-- A steady track does not jump. -/
theorem Steady.unbroken {f : Track} (h : f.Steady) : f.Unbroken := by
  -- Each coordinate moves no further than the place.
  have hx : ∀ t s, dist (f.place t).x (f.place s).x ≤ 1 * dist t s := by
    intro t s
    rw [one_mul, Real.dist_eq, Real.dist_eq]
    exact (Vec.abs_x_le_length (f.place t - f.place s)).trans (h.length_sub_le s t)
  have hy : ∀ t s, dist (f.place t).y (f.place s).y ≤ 1 * dist t s := by
    intro t s
    rw [one_mul, Real.dist_eq, Real.dist_eq]
    exact (Vec.abs_y_le_length (f.place t - f.place s)).trans (h.length_sub_le s t)
  exact ⟨(LipschitzWith.of_dist_le' hx).continuous, (LipschitzWith.of_dist_le' hy).continuous⟩

/-- Numbers beyond the ends may be moved there. -/
theorem Leads.place_clamp {f : Track} {a b : Vec ℝ} (h : f.Leads a b) (t : ℝ) :
    f.place (Scalar.clamp t 0 f.length) = f.place t := by
  rcases le_total t 0 with hbefore | hafter
  · rw [Scalar.clamp_of_le t 0 _ hbefore, h.first 0 (le_refl _), h.first t hbefore]
  rcases le_total f.length t with hbeyond | hinside
  · rw [Scalar.clamp_of_ge t 0 _ h.nonneg hbeyond, h.last _ (le_refl _), h.last t hbeyond]
  · rw [Scalar.clamp_of_mem t 0 _ hafter hinside]

/-- A steady track that leads somewhere stays where it is beyond its ends, so only the way inside
    counts. -/
theorem Steady.length_sub_le_clamp {f : Track} {a b : Vec ℝ} (h : f.Steady) (hleads : f.Leads a b)
    (s t : ℝ) : (f.place t - f.place s).length
      ≤ |Scalar.clamp t 0 f.length - Scalar.clamp s 0 f.length| := by
  rw [← hleads.place_clamp s, ← hleads.place_clamp t]
  exact h.length_sub_le _ _

section Append

variable {f g : Track} {a m b : Vec ℝ}

/-- Two tracks that meet lead from the start of the first to the end of the second. -/
theorem Leads.append (hf : f.Leads a m) (hg : g.Leads m b) : (f.append g).Leads a b := by
  have hnonneg := hf.nonneg
  refine ⟨add_nonneg hf.nonneg hg.nonneg, fun t ht => ?_, fun t ht => ?_⟩
  · unfold Track.append
    by_cases hfirst : t < f.length
    · simp only [if_pos hfirst]
      exact hf.first t ht
    · -- The first track has no length, so it starts and ends at one point.
      simp only [if_neg hfirst]
      rw [hg.first _ (by linarith), ← hf.last t (not_lt.mp hfirst), hf.first t ht]
  · unfold Track.append at ht ⊢
    -- Behind both ends the time is behind the first one too.
    have hbeyond : f.length ≤ t := by linarith [hg.nonneg]
    simp only [if_neg (not_lt.mpr hbeyond)]
    exact hg.last _ (by linarith)

/-- Up to both of its ends the first track tells the place. -/
theorem Leads.place_append_first (hf : f.Leads a m) (hg : g.Leads m b) (t : ℝ)
    (ht : t ≤ f.length) : (f.append g).place t = f.place t := by
  unfold Track.append
  by_cases hfirst : t < f.length
  · simp only [if_pos hfirst]
  · have hend := le_antisymm ht (not_lt.mp hfirst)
    simp only [if_neg hfirst]
    rw [hg.first _ (by linarith), hf.last t hend.ge]

theorem place_append_second (f g : Track) (t : ℝ) (ht : f.length ≤ t) :
    (f.append g).place t = g.place (t - f.length) := by
  unfold Track.append
  simp only [if_neg (not_lt.mpr ht)]

/-- Two steady tracks that meet are steady together. -/
theorem Steady.append (hf : f.Leads a m) (hg : g.Leads m b) (hfsteady : f.Steady)
    (hgsteady : g.Steady) : (f.append g).Steady := by
  intro s t hst
  rcases le_total t f.length with ht | ht
  · rw [hf.place_append_first hg t ht, hf.place_append_first hg s (hst.trans ht)]
    exact hfsteady s t hst
  · rcases le_total s f.length with hs | hs
    · -- From the first track to the second one, by way of the point where they meet.
      have hfirst := hfsteady s f.length hs
      have hsecond := hgsteady 0 (t - f.length) (by linarith)
      rw [hf.last _ (le_refl _)] at hfirst
      rw [hg.first _ (le_refl _)] at hsecond
      rw [hf.place_append_first hg s hs, place_append_second f g t ht]
      have hway := Vec.length_sub_le (f.place s) m (g.place (t - f.length))
      linarith
    · have hrest := hgsteady (s - f.length) (t - f.length) (by linarith)
      rw [place_append_second f g s hs, place_append_second f g t ht]
      linarith

/-- Two unbroken tracks that meet are unbroken together. -/
theorem Unbroken.append (hf : f.Leads a m) (hg : g.Leads m b) (hfunbroken : f.Unbroken)
    (hgunbroken : g.Unbroken) : (f.append g).Unbroken := by
  have hmeet : ∀ t, t = f.length → g.place (t - f.length) = f.place t := by
    intro t ht
    rw [hf.last t ht.ge, hg.first _ (by linarith)]
  have hshift : Continuous fun t : ℝ => t - f.length := continuous_id.sub continuous_const
  -- Both coordinates are chosen by the same comparison, and agree where it changes.
  have hchoice : ∀ coordinate : Vec ℝ → ℝ, Continuous (fun t => coordinate (f.place t)) →
      Continuous (fun t => coordinate (g.place t)) →
        Continuous fun t => coordinate ((f.append g).place t) := by
    intro coordinate hcf hcg
    have hif : Continuous fun t =>
        if f.length ≤ t then coordinate (g.place (t - f.length)) else coordinate (f.place t) :=
      Continuous.if_le (hcg.comp hshift) hcf continuous_const continuous_id
        (fun t ht => congrArg coordinate (hmeet t ht.symm))
    refine hif.congr fun t => ?_
    by_cases ht : f.length ≤ t
    · rw [if_pos ht, place_append_second f g t ht]
    · rw [if_neg ht, hf.place_append_first hg t (not_le.mp ht).le]
  exact ⟨hchoice Vec.x hfunbroken.1 hgunbroken.1, hchoice Vec.y hfunbroken.2 hgunbroken.2⟩

end Append

end Track

/-- Tracks from one point to another, each of which starts where the one before it ends. -/
inductive Linked : Vec ℝ → List Track → Vec ℝ → Prop where
  /-- No track leads nowhere. -/
  | nil (a : Vec ℝ) : Linked a [] a
  /-- A track in front of others. -/
  | cons {a m b : Vec ℝ} {f : Track} {fs : List Track} (hf : f.Leads a m) (hfs : Linked m fs b) :
      Linked a (f :: fs) b

namespace Linked

variable {a m b : Vec ℝ} {f : Track} {fs gs : List Track}

theorem append (hfs : Linked a fs m) (hgs : Linked m gs b) : Linked a (fs ++ gs) b := by
  induction hfs with
  | nil a => exact hgs
  | cons hf hfs ih => exact .cons hf (ih hgs)

/-- A part of a link leads between two points on the way. -/
theorem exists_leads (h : Linked a (fs ++ f :: gs) b) :
    ∃ m n, Linked a fs m ∧ f.Leads m n ∧ Linked n gs b := by
  induction fs generalizing a with
  | nil =>
      cases h with
      | cons hf hgs => exact ⟨a, _, .nil a, hf, hgs⟩
  | cons g fs ih =>
      cases h with
      | cons hg hrest =>
          rcases ih hrest with ⟨m, n, hfs, hf, hgs⟩
          exact ⟨m, n, .cons hg hfs, hf, hgs⟩

theorem leads (h : Linked a fs b) : (Track.joined b fs).Leads a b := by
  induction h with
  | nil a => exact ⟨le_refl _, fun _ _ => rfl, fun _ _ => rfl⟩
  | cons hf hfs ih => exact hf.append ih

/-- Each track ends where the next one starts. -/
theorem isChain (h : Linked a fs b) : fs.IsChain fun f g => f.place f.length = g.place 0 := by
  induction h with
  | nil a => exact List.isChain_nil
  | cons hf hfs ih =>
      cases hfs with
      | nil => exact List.isChain_singleton _
      | cons hg hgs =>
          refine List.isChain_cons_cons.mpr ⟨?_, ih⟩
          rw [hf.last _ (le_refl _), hg.first 0 (le_refl _)]

/-- It is steady if they are. -/
theorem steady (h : Linked a fs b) (hsteady : ∀ f ∈ fs, f.Steady) :
    (Track.joined b fs).Steady := by
  induction h with
  | nil a =>
      intro s t hst
      -- Without tracks the join stays at its stop.
      have hstays : ((Track.joined a []).place t - (Track.joined a []).place s).length = 0 :=
        Vec.length_sub_self a
      rw [hstays]
      linarith
  | cons hf hfs ih =>
      rw [List.forall_mem_cons] at hsteady
      exact Track.Steady.append hf hfs.leads hsteady.1 (ih hsteady.2)

/-- It is unbroken if they are. -/
theorem unbroken (h : Linked a fs b) (hunbroken : ∀ f ∈ fs, f.Unbroken) :
    (Track.joined b fs).Unbroken := by
  induction h with
  | nil a =>
      have hx : Continuous fun _ : ℝ => a.x := continuous_const
      have hy : Continuous fun _ : ℝ => a.y := continuous_const
      exact ⟨hx, hy⟩
  | cons hf hfs ih =>
      rw [List.forall_mem_cons] at hunbroken
      exact Track.Unbroken.append hf hfs.leads hunbroken.1 (ih hunbroken.2)

/-- A join is as long as its tracks together. -/
theorem length_joined (stop : Vec ℝ) (fs : List Track) :
    (Track.joined stop fs).length = (fs.map Track.length).sum := by
  induction fs with
  | nil => rfl
  | cons f fs ih =>
      rw [List.map_cons, List.sum_cons, ← ih]
      rfl

/-- Without length a link leads nowhere. -/
theorem eq_of_length_zero (h : Linked a fs b) (hzero : (fs.map Track.length).sum = 0) : a = b := by
  have hlength := length_joined b fs
  -- At zero the join is at its start, and at its end as well.
  rw [← h.leads.first 0 (le_refl _), h.leads.last 0 (by linarith)]

theorem length_nonneg (h : Linked a fs b) : ∀ f ∈ fs, 0 ≤ f.length := by
  induction h with
  | nil a => exact List.forall_mem_nil _
  | cons hf hfs ih => exact List.forall_mem_cons.mpr ⟨hf.nonneg, ih⟩

theorem sum_nonneg (h : Linked a fs b) : 0 ≤ (fs.map Track.length).sum := by
  rw [← length_joined b fs]
  exact h.leads.nonneg

/-- The owner of a number tells the place that joined tracks have there. It may own the number
    as its first or its last one. -/
theorem place_joined (h : Linked a (fs ++ f :: gs) b) (t : ℝ)
    (hlow : (fs.map Track.length).sum ≤ t) (hhigh : t ≤ (fs.map Track.length).sum + f.length) :
    (Track.joined b (fs ++ f :: gs)).place t = f.place (t - (fs.map Track.length).sum) := by
  induction fs generalizing a t with
  | nil =>
      cases h with
      | cons hf hgs =>
          rw [List.map_nil, List.sum_nil, zero_add] at hhigh
          rw [List.map_nil, List.sum_nil, sub_zero]
          exact hf.place_append_first hgs.leads t hhigh
  | cons g fs ih =>
      cases h with
      | cons hg hrest =>
          rcases hrest.exists_leads with ⟨_, _, hfs, -, -⟩
          have hfront := hfs.sum_nonneg
          rw [List.map_cons, List.sum_cons] at hlow hhigh ⊢
          -- The first track is used up, and the rest of the join goes on behind it.
          have hplace : (Track.joined b (g :: fs ++ f :: gs)).place t
              = (Track.joined b (fs ++ f :: gs)).place (t - g.length) :=
            Track.place_append_second g _ t (by linarith)
          rw [hplace, ih hrest (t - g.length) (by linarith) (by linarith), sub_sub]

end Linked

end PlanarMotion
