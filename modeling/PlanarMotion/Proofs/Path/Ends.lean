import PlanarMotion.Proofs.Path.Bernstein
import PlanarMotion.Proofs.Path.Lookup
import PlanarMotion.Proofs.Path.Tracks

/-!
# Where Pieces Lead

Over the real numbers every piece leads from where its definition starts to where it ends: a line
to its stop, an arc to its last angle, and the polyline of a cubic Bezier curve to the last control
point. None of the definitions mentions the end. A curve is asked for the pose after a distance,
which it gets by clamping, by a quotient of lengths and by a search among running sums, and each
of these has an exception for pieces without length. The exceptions are no gaps: a piece without
length starts where it ends.

Distances along a piece are true ones, in that the place does not move further than the distance
does. For an arc this compares a chord with its arc, and chains have it from their parts.

Lengths must not be negative for this. They are not, unless an arc is given a negative radius;
no builder does that, since it measures the radius as a distance.

## Main definitions

* `Curve.track`: The places along a curve.

## Theorems

* `LineSegment.leads`, `Arc.leads`, `Chain.leads`, `Polyline.leads`: Where pieces lead.
* `LineSegment.steady`, `Arc.steady`, `Chain.steady`, `Polyline.steady`: The place moves no
  further than the distance.
* `LineSegment.position_last`, `Arc.position_last`, `Polyline.position_last`: Where pieces end.
* `Arc.direction_poseAtAngle`: An arc runs square to its radius.
* `Arc.direction_first`, `Arc.direction_last`: The directions in which an arc starts and ends.
-/

namespace PlanarMotion

/-- The places along a curve. -/
def Curve.track (c : Curve ℝ) : Track where
  length := c.length
  place t := (c.pose t).position

theorem Curve.sum_length_tracks (cs : List (Curve ℝ)) :
    ((cs.map track).map Track.length).sum = (cs.map (·.length)).sum := by
  rw [List.map_map]
  rfl

namespace LineSegment

variable (s : LineSegment ℝ)

theorem length_nonneg : 0 ≤ s.length :=
  Vec.length_nonneg _

theorem place_track (t : ℝ) :
    s.curve.track.place t = s.start + s.direction.scale (Scalar.clamp t 0 s.length) :=
  rfl

/-- A line leads to its stop. If it has no length, this is where it starts. -/
theorem leads : s.curve.track.Leads s.start s.stop := by
  refine ⟨s.length_nonneg, fun t ht => ?_, fun t ht => ?_⟩
  · rw [s.place_track, Scalar.clamp_of_le t 0 _ ht]
    ext
    · simp
    · simp
  -- The direction times the length is the whole way, also if both are zero.
  · have hstop : s.direction.scale s.length = s.stop - s.start := Vec.scale_normalized _
    rw [s.place_track, Scalar.clamp_of_ge t 0 _ s.length_nonneg ht, hstop]
    ext
    · simp
    · simp

/-- A line moves along a direction that is no longer than one. -/
theorem steady : s.curve.track.Steady := by
  intro t u htu
  rcases Scalar.clamp_sub_mem t u 0 s.length htu with ⟨hnonneg, hle⟩
  -- Clamping brings two distances no further apart, and the direction is a unit vector or zero.
  have hdirection : s.direction.length ≤ 1 := by
    rcases Vec.length_normalized (s.stop - s.start) with hzero | hone
    · exact hzero.trans_le zero_le_one
    · exact hone.le
  have hmove : s.curve.track.place u - s.curve.track.place t = s.direction.scale
      (Scalar.clamp u 0 s.length - Scalar.clamp t 0 s.length) := by
    rw [s.place_track, s.place_track]
    ext
    · simp only [Vec.sub_x, Vec.add_x, Vec.scale_x]
      ring
    · simp only [Vec.sub_y, Vec.add_y, Vec.scale_y]
      ring
  rw [hmove, Vec.length_scale, abs_of_nonneg hnonneg]
  calc _ ≤ 1 * (Scalar.clamp u 0 s.length - Scalar.clamp t 0 s.length) :=
        mul_le_mul_of_nonneg_right hdirection hnonneg
    _ ≤ u - t := by rw [one_mul]; exact hle

theorem position_last : s.curve.last.position = s.stop :=
  s.leads.last s.length (le_refl _)

end LineSegment

namespace Arc

variable (a : Arc ℝ)

theorem length_eq : a.length = |a.endAngle - a.startAngle| * a.radius :=
  rfl

theorem length_nonneg (h : 0 ≤ a.radius) : 0 ≤ a.length := by
  rw [a.length_eq]
  exact mul_nonneg (abs_nonneg _) h

theorem place_track (t : ℝ) :
    a.curve.track.place t = a.center + Vec.ofAngle (a.angleAt t) a.radius :=
  rfl

/-- Without length an arc stays at its first angle. -/
theorem angleAt_of_zero (h : a.length = 0) (t : ℝ) : a.angleAt t = a.startAngle := by
  unfold angleAt
  simp only [if_pos ((Scalar.real_beq_iff _ _).mpr h)]

/-- Else the angle moves with the part of the length that has been covered. -/
theorem angleAt_of_ne_zero (h : a.length ≠ 0) (t : ℝ) : a.angleAt t
    = a.startAngle + (a.endAngle - a.startAngle) * (Scalar.clamp t 0 a.length / a.length) := by
  unfold angleAt
  simp only [if_neg (Scalar.not_real_beq h)]

/-- Up to the start an arc is at its first angle. -/
theorem angleAt_of_le_zero (t : ℝ) (ht : t ≤ 0) : a.angleAt t = a.startAngle := by
  by_cases hzero : a.length = 0
  · exact a.angleAt_of_zero hzero t
  · rw [a.angleAt_of_ne_zero hzero, Scalar.clamp_of_le t 0 _ ht, zero_div, mul_zero, add_zero]

/-- From the end on an arc is at its last angle. -/
theorem angleAt_of_length_le (hpos : 0 < a.length) (t : ℝ) (ht : a.length ≤ t) :
    a.angleAt t = a.endAngle := by
  rw [a.angleAt_of_ne_zero hpos.ne', Scalar.clamp_of_ge t 0 _ hpos.le ht, div_self hpos.ne',
    mul_one, add_sub_cancel]

/-- An arc leads to its last angle. If it has no length, it sweeps nothing or around nothing,
    and its first angle is at the same place. -/
theorem leads (h : 0 ≤ a.radius) :
    a.curve.track.Leads (a.center + Vec.ofAngle a.startAngle a.radius)
      (a.center + Vec.ofAngle a.endAngle a.radius) := by
  refine ⟨a.length_nonneg h, fun t ht => ?_, fun t ht => ?_⟩
  · rw [a.place_track, a.angleAt_of_le_zero t ht]
  · rw [a.place_track]
    by_cases hzero : a.length = 0
    · rw [a.angleAt_of_zero hzero]
      rw [a.length_eq, mul_eq_zero, abs_eq_zero, sub_eq_zero] at hzero
      -- No length means no sweep or no radius.
      rcases hzero with hsweep | hradius
      · rw [hsweep]
      · rw [hradius]
        ext <;> simp
    · have hpos := lt_of_le_of_ne (a.length_nonneg h) (Ne.symm hzero)
      rw [a.angleAt_of_length_le hpos t ht]

/-- An arc moves no faster than the distance, since a chord is no longer than its arc. -/
theorem steady (h : 0 ≤ a.radius) : a.curve.track.Steady := by
  intro t u htu
  have hmove : a.curve.track.place u - a.curve.track.place t
      = Vec.ofAngle (a.angleAt u) a.radius - Vec.ofAngle (a.angleAt t) a.radius := by
    rw [a.place_track, a.place_track]
    ext
    · simp
    · simp
  have hchord := Vec.length_ofAngle_sub_le (a.angleAt t) (a.angleAt u) a.radius
  rw [hmove]
  refine hchord.trans ?_
  rw [abs_of_nonneg h]
  by_cases hzero : a.length = 0
  · rw [a.angleAt_of_zero hzero, a.angleAt_of_zero hzero, sub_self, abs_zero, zero_mul]
    linarith
  · -- The angle moves by the part of the sweep that the distance is of the length.
    rcases Scalar.clamp_sub_mem t u 0 a.length htu with ⟨hnonneg, hle⟩
    have hlength := a.length_nonneg h
    have hangle : a.angleAt u - a.angleAt t = (a.endAngle - a.startAngle)
        * ((Scalar.clamp u 0 a.length - Scalar.clamp t 0 a.length) / a.length) := by
      rw [a.angleAt_of_ne_zero hzero, a.angleAt_of_ne_zero hzero]
      ring
    have hpart : |a.angleAt u - a.angleAt t| * a.radius
        = Scalar.clamp u 0 a.length - Scalar.clamp t 0 a.length := by
      rw [hangle, abs_mul, mul_right_comm, ← a.length_eq,
        abs_of_nonneg (div_nonneg hnonneg hlength), mul_div_cancel₀ _ hzero]
    rw [hpart]
    exact hle

theorem position_last (h : 0 ≤ a.radius) :
    a.curve.last.position = a.center + Vec.ofAngle a.endAngle a.radius :=
  (a.leads h).last a.length (le_refl _)

/-- An arc runs square to its radius, to the side that it goes: a quarter turn ahead of the angle to
    the left, and behind it to the right. -/
theorem direction_poseAtAngle (angle : ℝ) : (a.poseAtAngle angle).direction
    = Vec.ofAngle (angle + if a.startAngle < a.endAngle then Scalar.quarterTurn
        else -Scalar.quarterTurn) 1 := by
  rw [Scalar.quarterTurn_eq]
  unfold poseAtAngle counterClockwise
  by_cases hleft : a.startAngle < a.endAngle
  · rw [if_pos hleft]
    simp only [if_pos (decide_eq_true hleft)]
    ext
    · rw [Vec.ofAngle_x, Real.cos_add_pi_div_two, one_mul]
      rfl
    · rw [Vec.ofAngle_y, Real.sin_add_pi_div_two, one_mul]
      rfl
  · rw [if_neg hleft, ← sub_eq_add_neg]
    simp only [if_neg (fun hdecide => hleft (of_decide_eq_true hdecide))]
    ext
    · rw [Vec.ofAngle_x, Real.cos_sub_pi_div_two, one_mul]
      rfl
    · rw [Vec.ofAngle_y, Real.sin_sub_pi_div_two, one_mul]
      rfl

/-- At its start an arc is at its first angle, also if it has no length. -/
theorem direction_first : a.curve.first.direction
    = Vec.ofAngle (a.startAngle + if a.startAngle < a.endAngle then Scalar.quarterTurn
        else -Scalar.quarterTurn) 1 := by
  have hfirst : a.curve.first = a.poseAtAngle a.startAngle :=
    congrArg a.poseAtAngle (a.angleAt_of_le_zero 0 (le_refl _))
  rw [hfirst, a.direction_poseAtAngle]

theorem direction_last (h : 0 < a.length) : a.curve.last.direction
    = Vec.ofAngle (a.endAngle + if a.startAngle < a.endAngle then Scalar.quarterTurn
        else -Scalar.quarterTurn) 1 := by
  have hlast : a.curve.last = a.poseAtAngle a.endAngle :=
    congrArg a.poseAtAngle (a.angleAt_of_length_le h a.length (le_refl _))
  rw [hlast, a.direction_poseAtAngle]

end Arc

namespace Chain

variable (c : Chain ℝ) {a b : Vec ℝ}

theorem length_eq_sum_tracks :
    c.length = ((c.children.map Curve.track).map Track.length).sum := by
  rw [c.length_eq_sum, Curve.sum_length_tracks]

/-- The place of a chain is that of the child that answers. -/
theorem place_of_some (t offset : ℝ) (child : Curve ℝ)
    (h : c.answerer? t = some (child, offset)) :
    c.curve.track.place t = child.track.place offset :=
  congrArg Pose.position (c.pose_of_some t offset child h)

theorem children_ne_nil (h : c.length ≠ 0) : c.children ≠ [] := by
  intro hnil
  rw [c.length_eq_sum, hnil, List.map_nil, List.sum_nil] at h
  exact h rfl

/-- Up to its start a chain is where its first child starts. -/
theorem place_of_le_zero (h : Linked a (c.children.map Curve.track) b) (hpos : 0 < c.length)
    (t : ℝ) (ht : t ≤ 0) : c.curve.track.place t = a := by
  rcases List.exists_cons_of_ne_nil (c.children_ne_nil hpos.ne') with ⟨child, rest, hchildren⟩
  rw [c.place_of_some t 0 child (c.answerer?_first measures_real child rest hchildren hpos t ht)]
  rw [hchildren, List.map_cons] at h
  cases h with
  | cons hchild _ => exact hchild.first 0 (le_refl _)

/-- From its end on it is where its last child ends. -/
theorem place_of_length_le (h : Linked a (c.children.map Curve.track) b) (hpos : 0 < c.length)
    (t : ℝ) (ht : c.length ≤ t) : c.curve.track.place t = b := by
  rcases List.eq_nil_or_concat c.children with hnil | ⟨front, child, hchildren⟩
  · exact absurd hnil (c.children_ne_nil hpos.ne')
  rw [List.concat_eq_append] at hchildren
  have hanswer := c.answerer?_last measures_real front child hchildren hpos t ht
  rw [c.place_of_some t _ child hanswer]
  rw [hchildren, List.map_append, List.map_singleton] at h
  -- The last child is the last part of the link.
  rcases h.exists_leads with ⟨_, _, -, hchild, hback⟩
  cases hback with
  | nil => exact hchild.last _ (le_refl _)

/-- Strictly inside, the search finds the part of the join. -/
theorem place_of_inside (h : Linked a (c.children.map Curve.track) b) (t : ℝ) (hpos : 0 < t)
    (hlt : t < c.length) :
    c.curve.track.place t = (Track.joined b (c.children.map Curve.track)).place t := by
  have hlengths : ∀ child ∈ c.children, 0 ≤ child.length :=
    fun child hchild => h.length_nonneg child.track (List.mem_map_of_mem hchild)
  rcases measures_real.exists_owner c.children (·.length) hlengths hpos.le hlt with
    ⟨front, child, back, hchildren, hlow, hhigh⟩
  have hanswer := c.answerer?_owner measures_real front back child hchildren hlengths t hlow hhigh
    hpos
  rw [c.place_of_some t _ child hanswer]
  -- The child that the search finds is the part of the join that owns the distance.
  have hfront := Curve.sum_length_tracks front
  rw [total_eq_sum] at hlow hhigh ⊢
  rw [hchildren, List.map_append, List.map_cons] at h ⊢
  rw [h.place_joined t (hfront.trans_le hlow) (hfront ▸ hhigh.le), hfront]

/-- A chain of linked curves has the places of these, one after the other. The search among
    running sums, the exceptions for both ends and the rest do not show. -/
theorem place_track (h : Linked a (c.children.map Curve.track) b)
    (hrest : c.length = 0 → c.rest.position = b) (t : ℝ) :
    c.curve.track.place t = (Track.joined b (c.children.map Curve.track)).place t := by
  have hlength := c.length_eq_sum_tracks
  have hjoined := Linked.length_joined b (c.children.map Curve.track)
  have hnonneg := h.sum_nonneg
  by_cases hzero : c.length = 0
  · have hplace : c.curve.track.place t = c.rest.position :=
      congrArg Pose.position (c.pose_of_none t
        (c.answerer?_of_zero ((Scalar.real_beq_iff _ _).mpr hzero) t))
    rw [hplace, hrest hzero]
    rcases le_total t 0 with ht | ht
    · rw [h.leads.first t ht, h.eq_of_length_zero (hlength ▸ hzero)]
    · rw [h.leads.last t (by linarith)]
  · have hpos : 0 < c.length := lt_of_le_of_ne (hlength ▸ hnonneg) (Ne.symm hzero)
    -- The chain answers at both ends by rules of its own, and in between by its search.
    rcases le_or_gt t 0 with hbefore | hafter
    · rw [c.place_of_le_zero h hpos t hbefore, h.leads.first t hbefore]
    rcases le_or_gt c.length t with hbeyond | hinside
    · rw [c.place_of_length_le h hpos t hbeyond, h.leads.last t (by linarith)]
    · exact c.place_of_inside h t hafter hinside

/-- A chain of linked curves leads where they lead. -/
theorem leads (h : Linked a (c.children.map Curve.track) b)
    (hrest : c.length = 0 → c.rest.position = b) : c.curve.track.Leads a b := by
  have hlength : c.curve.track.length = (Track.joined b (c.children.map Curve.track)).length := by
    rw [Linked.length_joined, ← c.length_eq_sum_tracks]
    rfl
  refine ⟨?_, fun t ht => ?_, fun t ht => ?_⟩
  · rw [hlength]
    exact h.leads.nonneg
  · rw [c.place_track h hrest]
    exact h.leads.first t ht
  · rw [c.place_track h hrest]
    exact h.leads.last t (hlength ▸ ht)

theorem steady (h : Linked a (c.children.map Curve.track) b)
    (hrest : c.length = 0 → c.rest.position = b)
    (hsteady : ∀ child ∈ c.children, child.track.Steady) : c.curve.track.Steady := by
  intro s t hst
  rw [c.place_track h hrest, c.place_track h hrest]
  exact h.steady (List.forall_mem_map.mpr hsteady) s t hst

end Chain

/-- The chords of a list of vertices, one for each two neighbours. -/
def chordsOf (vertices : List (Vec ℝ)) : List (LineSegment ℝ) :=
  List.zipWith LineSegment.mk vertices vertices.tail

theorem chordsOf_cons (v w : Vec ℝ) (vs : List (Vec ℝ)) :
    chordsOf (v :: w :: vs) = ⟨v, w⟩ :: chordsOf (w :: vs) :=
  rfl

/-- Chords lead from the first vertex to the last one. -/
theorem linked_chordsOf (v d : Vec ℝ) (vs : List (Vec ℝ)) (h : (v :: vs).getLast? = some d) :
    Linked v ((chordsOf (v :: vs)).map fun s => s.curve.track) d := by
  induction vs generalizing v with
  | nil =>
      rw [List.getLast?_singleton, Option.some.injEq] at h
      rw [h]
      exact .nil d
  | cons w vs ih =>
      rw [List.getLast?_cons_cons] at h
      rw [chordsOf_cons, List.map_cons]
      -- The first chord leads to the second vertex, and the others from there on.
      exact .cons (LineSegment.leads ⟨v, w⟩) (ih w h)

namespace Polyline

variable (a b c d : Vec ℝ) (segments : Int)

/-- The first vertex of the polyline of a cubic curve is its first control point. -/
theorem head?_vertices :
    (ofBezier ⟨[a, b, c, d]⟩ segments).vertices.head? = some a := by
  -- The first sample is at parameter zero.
  have hzero : (Scalar.ofNat 0 / Scalar.ofNat (max 1 segments.toNat) : ℝ) = 0 := by
    have hcast : (Scalar.ofNat 0 : ℝ) = 0 := Nat.cast_zero
    rw [hcast, zero_div]
  simp only [ofBezier, Bezier.samples, List.head?_map, List.head?_range, Nat.succ_ne_zero,
    if_false, Option.map_some, hzero, Bezier.evaluate_zero]

/-- The last vertex is its last control point. -/
theorem getLast?_vertices :
    (ofBezier ⟨[a, b, c, d]⟩ segments).vertices.getLast? = some d := by
  -- The last one is at parameter one, since there is at least one chord to divide by.
  have hone : (Scalar.ofNat (max 1 segments.toNat) / Scalar.ofNat (max 1 segments.toNat) : ℝ)
      = 1 := by
    have hcast : (Scalar.ofNat (max 1 segments.toNat) : ℝ) = ((max 1 segments.toNat : ℕ) : ℝ) :=
      rfl
    rw [hcast, div_self (Nat.cast_ne_zero.mpr (by omega))]
  simp only [ofBezier, Bezier.samples, List.getLast?_map, List.getLast?_range, Nat.succ_ne_zero,
    if_false, Option.map_some, Nat.add_sub_cancel, hone, Bezier.evaluate_one]
  rfl

/-- The chords of the polyline of a cubic curve lead from the first control point to the last. -/
theorem linked_chords :
    Linked a ((ofBezier ⟨[a, b, c, d]⟩ segments).chain.children.map Curve.track) d := by
  have hhead := head?_vertices a b c d segments
  have hlast := getLast?_vertices a b c d segments
  rw [chain, List.map_map, chords]
  cases hvertices : (ofBezier ⟨[a, b, c, d]⟩ segments).vertices with
  | nil =>
      rw [hvertices] at hhead
      cases hhead
  | cons v vs =>
      rw [hvertices, List.head?_cons, Option.some.injEq] at hhead
      rw [hvertices, hhead] at hlast
      rw [hhead]
      exact linked_chordsOf a d vs hlast

/-- A polyline without length rests at its first vertex, which is then its last one too. -/
theorem rest_of_zero (h : (ofBezier ⟨[a, b, c, d]⟩ segments).chain.length = 0) :
    (ofBezier ⟨[a, b, c, d]⟩ segments).chain.rest.position = d := by
  have hsame : a = d := by
    refine (linked_chords a b c d segments).eq_of_length_zero ?_
    rw [← Chain.length_eq_sum_tracks]
    exact h
  simp only [chain, head?_vertices, Option.getD_some, hsame]

/-- The polyline of a cubic curve leads from its first control point to its last. -/
theorem leads : (ofBezier ⟨[a, b, c, d]⟩ segments).curve.track.Leads a d :=
  Chain.leads _ (linked_chords a b c d segments) (rest_of_zero a b c d segments)

theorem steady : (ofBezier ⟨[a, b, c, d]⟩ segments).curve.track.Steady := by
  refine Chain.steady _ (linked_chords a b c d segments) (rest_of_zero a b c d segments) ?_
  intro child hchild
  rcases List.mem_map.mp hchild with ⟨s, -, rfl⟩
  exact s.steady

theorem position_last : (ofBezier ⟨[a, b, c, d]⟩ segments).curve.last.position = d :=
  (leads a b c d segments).last _ (le_refl _)

end Polyline

end PlanarMotion
