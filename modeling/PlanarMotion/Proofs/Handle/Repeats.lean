import PlanarMotion.Proofs.Handle.Sweep
import PlanarMotion.Proofs.Plane.Distance

/-!
# Dragging a Handle Again

A drag forgets what a literal was before, with one exception. The angle of a turn is told from the
drag point and from the old angle, to which it is to be near; and if the turn leaves straight on,
then the old angle says on which side the center is. So a second drag of the same handle to the
same point changes nothing, unless it is that of the end of such a turn.

There an angle that the first drag took stays, as it reaches the drag point and nothing is nearer.
Where the angle was held back the point is asked again, and the answer is the same as long as the
angle that was refused is still the nearest one. That may fail. The angle that was written may be
larger than the old one, and the window in which the nearest one is looked for has moved with it.
An angle that has left the window comes back with a turn added, and then its sign is the locked
one. This takes an old angle that is smaller than the one that is written.

The other case is a turn by the angle zero, which is drawn as one to the right. It has no sign to
be locked. If it is dragged to a positive angle, then the center changes its side, and the next
drag looks at the point from there.

## Main definitions

* `Escapes`, `Crosses`: How a point may be looked at differently after a drag.
* `Grip.Restless`: The drags that move a handle again if they are repeated.
* `OppositeViews`: A point seen from two places.
* `turnBase`, `sweptTo`: The end of a turn that leaves straight on, and its angle after a drag.

## Theorems

* `draggedAngle_snappedSweep_iff`: When an angle that was held back is held back again.
* `oppositeViews`: How a point is seen from either side of the cursor.
* `draggedAngle_opposite_iff`: When a turn that was none stays, seen from its new center.
* `sweptTo_again_iff`: The end of a turn that leaves straight on, dragged again.
* `drag_again`: A handle of a statement, dragged again.
* `change_again`: A handle of a program, dragged again.
* `change_again_none`: One that moves.
-/

namespace PlanarMotion

/-- An angle was held back, and the one that was refused has left the window around the angle that
    was written. -/
def Escapes (center : Vec ℝ) (baseAngle angle : ℝ) (point : Vec ℝ) : Prop :=
  Snaps center baseAngle angle point ∧ freeSweep center baseAngle angle point ∉
    Set.Ioc (snappedSweep angle - Real.pi) (snappedSweep angle + Real.pi)

/-- A turn that was none has become one to the left, by another angle than the one that is written
    where one is held back. -/
def Crosses (center : Vec ℝ) (distance baseAngle angle : ℝ) (point : Vec ℝ) : Prop :=
  angle = 0 ∧ distance ≠ 0 ∧ 0 < freeSweep center baseAngle angle point ∧
    freeSweep center baseAngle angle point ≠ minimalSweep

/-- A drag that moves the handle again if it is repeated. It is one of the end of a turn that leaves
    straight on. -/
def Grip.Restless (g : Grip ℝ) (point : Vec ℝ) : Prop :=
  match g with
  | .onArc center distance baseAngle angle true =>
    Escapes center baseAngle angle point ∨ Crosses center distance baseAngle angle point
  | _ => False

section HeldBack

variable (center : Vec ℝ) (baseAngle angle : ℝ) (point : Vec ℝ)

theorem ne_zero_of_snaps (h : Snaps center baseAngle angle point) : angle ≠ 0 := by
  rcases h with ⟨hpos, -⟩ | ⟨hneg, -⟩
  · exact hpos.ne'
  · exact hneg.ne

/-- An angle that was held back does not go on in the direction in which it was held back. -/
theorem freeSweep_snappedSweep_bound
    (h : draggedAngle center baseAngle (snappedSweep angle) true point = snappedSweep angle) :
    (0 < angle → freeSweep center baseAngle (snappedSweep angle) point ≤ snappedSweep angle) ∧
      (angle < 0 → snappedSweep angle ≤ freeSweep center baseAngle (snappedSweep angle) point) := by
  -- Either it is held back again, or what is written is the nearest angle itself.
  by_cases hsnaps : Snaps center baseAngle (snappedSweep angle) point
  · rcases hsnaps with ⟨hpos, hle⟩ | ⟨hneg, hge⟩
    · refine ⟨fun _ => hle.trans hpos.le, fun hneg => ?_⟩
      rw [snappedSweep, if_neg (lt_asymm hneg)] at hpos
      norm_num at hpos
    · refine ⟨fun hpos => ?_, fun _ => hneg.le.trans hge⟩
      rw [snappedSweep, if_pos hpos] at hneg
      norm_num at hneg
  · rw [draggedAngle_of_not_snaps center point baseAngle _ hsnaps] at h
    exact ⟨fun _ => h.le, fun _ => h.ge⟩

/-- Where an angle that was held back stays, the same angle has been refused again, as nothing else
    is less than a turn away. -/
theorem freeSweep_eq_of_stays (h : Snaps center baseAngle angle point)
    (hstays : draggedAngle center baseAngle (snappedSweep angle) true point = snappedSweep angle) :
    freeSweep center baseAngle (snappedSweep angle) point
      = freeSweep center baseAngle angle point := by
  rcases freeSweep_snappedSweep_bound center baseAngle angle point hstays with ⟨hup, hdown⟩
  have hmem := freeSweep_mem center baseAngle angle point
  have hmem' := freeSweep_mem center baseAngle (snappedSweep angle) point
  have hpi := Real.pi_gt_three
  -- Both angles lie on the refused side of what was written, within half a turn of their windows.
  have hnear : |freeSweep center baseAngle (snappedSweep angle) point
      - freeSweep center baseAngle angle point| < 2 * Real.pi := by
    rw [abs_lt]
    rcases h with ⟨hpos, hle⟩ | ⟨hneg, hge⟩
    · have hbound := hup hpos
      rw [snappedSweep, if_pos hpos] at hbound hmem' ⊢
      constructor
      · linarith [hmem'.1]
      · linarith [hmem.1]
    · have hbound := hdown hneg
      rw [snappedSweep, if_neg (lt_asymm hneg)] at hbound hmem' ⊢
      constructor
      · linarith [hmem.2]
      · linarith [hmem'.2]
  by_contra hne
  -- Both reach the point, so they are equal or a turn apart.
  have hreaches := reaches_freeSweep center baseAngle angle point
  have hreaches' := reaches_freeSweep center baseAngle (snappedSweep angle) point
  exact not_le.mpr hnear (turn_le_of_reaches center baseAngle point _ _ hreaches hreaches' hne)

theorem snappedSweep_ne_zero (h : angle ≠ 0) : snappedSweep angle ≠ 0 := by
  rw [← sign_ne_zero, sign_snappedSweep angle h, sign_ne_zero]
  exact h

/-- An angle that was held back stays exactly if the angle that was refused is in the window around
    what was written. -/
theorem draggedAngle_snappedSweep_iff (h : Snaps center baseAngle angle point) :
    draggedAngle center baseAngle (snappedSweep angle) true point = snappedSweep angle ↔
      freeSweep center baseAngle angle point
        ∈ Set.Ioc (snappedSweep angle - Real.pi) (snappedSweep angle + Real.pi) := by
  constructor
  · intro hstays
    rw [← freeSweep_eq_of_stays center baseAngle angle point h hstays]
    exact freeSweep_mem center baseAngle (snappedSweep angle) point
  · intro hmem
    have hsome := ne_zero_of_snaps center baseAngle angle point h
    have hwritten := snappedSweep_ne_zero angle hsome
    have hsign := sign_snappedSweep angle hsome
    have hsame := freeSweep_of_reaches center baseAngle (snappedSweep angle) point _
      (reaches_freeSweep center baseAngle angle point) hmem
    -- The same angle is refused again, as the sign is still the same.
    have hsnaps : Snaps center baseAngle (snappedSweep angle) point := by
      rw [snaps_iff center baseAngle _ point hwritten, hsame, hsign,
        ← snaps_iff center baseAngle angle point hsome]
      exact h
    rw [draggedAngle_of_snaps center point baseAngle _ hsnaps, snappedSweep_eq _ hwritten, hsign,
      ← snappedSweep_eq angle hsome]

/-- An angle that leaves the window was smaller than what was written. -/
theorem abs_lt_of_escapes (h : Escapes center baseAngle angle point) : |angle| < minimalSweep := by
  have hmem := freeSweep_mem center baseAngle angle point
  rcases h with ⟨⟨hpos, hle⟩ | ⟨hneg, hge⟩, hout⟩
  · rw [snappedSweep, if_pos hpos] at hout
    rw [abs_of_pos hpos, minimalSweep_eq]
    by_contra hlarge
    -- A larger angle would have its window reach as far as the one around what was written.
    refine hout ⟨?_, ?_⟩
    · linarith [hmem.1]
    · linarith [Real.pi_pos]
  · rw [snappedSweep, if_neg (lt_asymm hneg)] at hout
    rw [abs_of_neg hneg, minimalSweep_eq]
    by_contra hlarge
    refine hout ⟨?_, ?_⟩
    · linarith [Real.pi_gt_three]
    · linarith [hmem.2]

end HeldBack

section Opposite

/-- From the other side everything is seen in the opposite direction. -/
theorem Vec.ofAngle_angle_neg (a : Vec ℝ) (angle radius : ℝ) (h : a.length ≠ 0) :
    Vec.ofAngle ((-a).angle + angle) radius = -Vec.ofAngle (a.angle + angle) radius := by
  have hlength : (-a).length = a.length := by
    rw [Vec.length_eq, Vec.length_eq, Vec.neg_x, Vec.neg_y, neg_sq, neg_sq]
  -- Both vectors are drawn at their own angles, so sines and cosines differ by the sign.
  have hother := (-a).ofAngle_angle
  rw [hlength] at hother
  have hx : a.length * Real.cos (-a).angle = -(a.length * Real.cos a.angle) :=
    (congrArg Vec.x hother).trans (congrArg (fun v => -Vec.x v) a.ofAngle_angle).symm
  have hy : a.length * Real.sin (-a).angle = -(a.length * Real.sin a.angle) :=
    (congrArg Vec.y hother).trans (congrArg (fun v => -Vec.y v) a.ofAngle_angle).symm
  have hcos : Real.cos (-a).angle = -Real.cos a.angle :=
    mul_left_cancel₀ h (hx.trans (mul_neg _ _).symm)
  have hsin : Real.sin (-a).angle = -Real.sin a.angle :=
    mul_left_cancel₀ h (hy.trans (mul_neg _ _).symm)
  ext
  · rw [Vec.ofAngle_x, Vec.neg_x, Vec.ofAngle_x, Real.cos_add, Real.cos_add, hcos, hsin]
    ring
  · rw [Vec.ofAngle_y, Vec.neg_y, Vec.ofAngle_y, Real.sin_add, Real.sin_add, hcos, hsin]
    ring

/-- A point is seen from two places, a width to either side of a start. The angles, counted from the
    direction of the start or from the opposite one, and the distances make up the way between the
    places. -/
structure OppositeViews (width near far sweep sweep' : ℝ) : Prop where
  /-- The places are not the same. -/
  width_pos : 0 < width
  /-- One distance. -/
  near_nonneg : 0 ≤ near
  /-- The other distance. -/
  far_nonneg : 0 ≤ far
  /-- In the direction of the start they make up twice the width. -/
  along : near * Real.cos sweep + far * Real.cos sweep' = 2 * width
  /-- Across it they cancel. -/
  across : near * Real.sin sweep + far * Real.sin sweep' = 0

/-- Whoever reaches the point from either side has such views of it. -/
theorem oppositeViews (start offset point : Vec ℝ) (sweep sweep' : ℝ) (hoffset : offset.length ≠ 0)
    (h : Vec.ofAngle (offset.angle + sweep) (point - (start - offset)).length
      = point - (start - offset))
    (h' : Vec.ofAngle ((-offset).angle + sweep') (point - (start + offset)).length
      = point - (start + offset)) :
    OppositeViews offset.length (point - (start - offset)).length (point - (start + offset)).length
      sweep sweep' := by
  have hwidth := lt_of_le_of_ne offset.length_nonneg hoffset.symm
  have hnear := (point - (start - offset)).length_nonneg
  have hfar := (point - (start + offset)).length_nonneg
  -- Both views are counted from one direction now.
  rw [offset.ofAngle_angle_neg _ _ hoffset] at h'
  generalize (point - (start - offset)).length = near at h hnear ⊢
  generalize (point - (start + offset)).length = far at h' hfar ⊢
  have hx := congrArg Vec.x offset.ofAngle_angle
  have hy := congrArg Vec.y offset.ofAngle_angle
  have hpx := congrArg Vec.x h
  have hpy := congrArg Vec.y h
  have hpx' := congrArg Vec.x h'
  have hpy' := congrArg Vec.y h'
  simp only [Vec.ofAngle_x, Vec.ofAngle_y, Vec.neg_x, Vec.neg_y, Vec.sub_x, Vec.sub_y, Vec.add_x,
    Vec.add_y, Real.cos_add, Real.sin_add] at hx hy hpx hpy hpx' hpy'
  -- The way from one place to the other, turned so that it goes along the abscissa.
  have hunit := Real.sin_sq_add_cos_sq offset.angle
  refine ⟨hwidth, hnear, hfar, ?_, ?_⟩
  · linear_combination Real.cos offset.angle * (hpx - hpx') + Real.sin offset.angle * (hpy - hpy')
      - 2 * Real.cos offset.angle * hx - 2 * Real.sin offset.angle * hy
      - (near * Real.cos sweep + far * Real.cos sweep' - 2 * offset.length) * hunit
  · linear_combination Real.cos offset.angle * (hpy - hpy') - Real.sin offset.angle * (hpx - hpx')
      - 2 * Real.cos offset.angle * hy + 2 * Real.sin offset.angle * hx
      - (near * Real.sin sweep + far * Real.sin sweep') * hunit

/-- No point to the left is seen by the same angle from both sides. -/
theorem OppositeViews.ne {width near far sweep sweep' : ℝ}
    (h : OppositeViews width near far sweep sweep') (hpos : 0 < sweep) (hle : sweep ≤ Real.pi) :
    sweep' ≠ sweep := by
  rintro rfl
  have halong := h.along
  have hacross := h.across
  rw [← add_mul] at halong hacross
  rcases mul_eq_zero.mp hacross with hzero | hzero
  · rw [hzero, zero_mul] at halong
    linarith [h.width_pos]
  · -- Then the point is seen straight back, which is not from both sides.
    have hback : sweep' = Real.pi := by
      by_contra hne
      exact (Real.sin_pos_of_pos_of_lt_pi hpos (lt_of_le_of_ne hle hne)).ne' hzero
    rw [hback, Real.cos_pi] at halong
    linarith [h.width_pos, h.near_nonneg, h.far_nonneg]

/-- The second angle of a point to the left is not to the left, if it is in the window around the
    first. -/
theorem OppositeViews.nonpos {width near far sweep sweep' : ℝ}
    (h : OppositeViews width near far sweep sweep') (hpos : 0 < sweep) (hlt : sweep < Real.pi)
    (hmem : sweep' ∈ Set.Ioc (sweep - Real.pi) (sweep + Real.pi)) : sweep' ≤ 0 := by
  have hup := Real.sin_pos_of_pos_of_lt_pi hpos hlt
  -- The second angle is less than the first, by less than half a turn.
  have hdiff : far * Real.sin (sweep' - sweep) = -(2 * width * Real.sin sweep) := by
    rw [Real.sin_sub]
    linear_combination Real.cos sweep * h.across - Real.sin sweep * h.along
  have hless : sweep' < sweep := by
    by_contra hge
    have hnonneg := Real.sin_nonneg_of_nonneg_of_le_pi (sub_nonneg.mpr (not_lt.mp hge))
      (sub_le_iff_le_add'.mpr hmem.2)
    linarith [mul_nonneg h.far_nonneg hnonneg, mul_pos (mul_pos two_pos h.width_pos) hup]
  by_contra hpositive
  have hdown := Real.sin_pos_of_pos_of_lt_pi (not_le.mp hpositive) (hless.trans hlt)
  -- Both sines are positive, so both distances are zero, and there is no way between the places.
  rcases (add_eq_zero_iff_of_nonneg (mul_nonneg h.near_nonneg hup.le)
    (mul_nonneg h.far_nonneg hdown.le)).mp h.across with ⟨hnear, hfar⟩
  have halong := h.along
  rw [(mul_eq_zero.mp hnear).resolve_right hup.ne', (mul_eq_zero.mp hfar).resolve_right hdown.ne',
    zero_mul, zero_mul, zero_add] at halong
  linarith [h.width_pos]

/-- A turn that was none and has become one to the left, seen from its new center. Its angle is held
    back, so it stays exactly if it is what is written then. -/
theorem draggedAngle_opposite_iff (start offset point : Vec ℝ) (hoffset : offset.length ≠ 0)
    (sweep : ℝ) (hsweep : sweep = freeSweep (start - offset) offset.angle 0 point)
    (hpos : 0 < sweep) :
    draggedAngle (start + offset) (-offset).angle sweep true point = sweep
      ↔ sweep = minimalSweep := by
  have hmem := freeSweep_mem (start - offset) offset.angle 0 point
  have hmem' := freeSweep_mem (start + offset) (-offset).angle sweep point
  have hview := ofAngle_freeSweep (start - offset) point offset.angle 0
    (point - (start - offset)).length
  have hview' := ofAngle_freeSweep (start + offset) point (-offset).angle sweep
    (point - (start + offset)).length
  rw [Vec.ofAngle_angle] at hview hview'
  rw [← hsweep] at hmem hview
  rw [zero_add] at hmem
  have hviews := oppositeViews start offset point sweep _ hoffset hview hview'
  have hsnapped : snappedSweep sweep = minimalSweep := by
    rw [snappedSweep, if_pos hpos, minimalSweep_eq]
  constructor
  · intro hstays
    -- If it is not held back then it is the second angle, which is never the first.
    by_cases hsnaps : Snaps (start + offset) (-offset).angle sweep point
    · rw [draggedAngle_of_snaps _ _ _ _ hsnaps, hsnapped] at hstays
      exact hstays.symm
    · rw [draggedAngle_of_not_snaps _ _ _ _ hsnaps] at hstays
      exact absurd hstays (hviews.ne hpos hmem.2)
  · intro hleast
    have hlt : sweep < Real.pi := by
      rw [hleast, minimalSweep_eq]
      linarith [Real.pi_gt_three]
    -- A small first angle has a second one that is not to the left, so it is held back.
    have hsnaps : Snaps (start + offset) (-offset).angle sweep point :=
      Or.inl ⟨hpos, hviews.nonpos hpos hlt hmem'⟩
    rw [draggedAngle_of_snaps _ _ _ _ hsnaps, hsnapped, ← hleast]

end Opposite

theorem Vec.sub_sub_self (a b : Vec ℝ) : a - (a - b) = b := by
  ext
  · simp
  · simp

theorem Vec.sub_add_self (a b : Vec ℝ) : a - (a + b) = -b := by
  ext
  · simp
  · simp

section Turns

variable (cursor : Pose ℝ) (radius angle : ℝ) (point : Vec ℝ)

/-- The direction of the cursor, seen from the center of a turn. -/
noncomputable def turnBase : ℝ :=
  (cursor.position - arcCenter cursor radius angle).angle

/-- The angle of a turn that leaves straight on, after its end was dragged to a point. -/
noncomputable def sweptTo : ℝ :=
  draggedAngle (arcCenter cursor radius angle) (turnBase cursor radius angle) angle true point

/-- If the center stays where it is, then the point is looked at from the same place again. -/
theorem sweptTo_of_center (sweep : ℝ)
    (h : arcCenter cursor radius sweep = arcCenter cursor radius angle) :
    sweptTo cursor radius sweep point = draggedAngle (arcCenter cursor radius angle)
      (turnBase cursor radius angle) sweep true point := by
  rw [sweptTo, turnBase, h, ← turnBase]

/-- A turn to a side keeps its center, so it is a matter of the angle alone. -/
theorem sweptTo_again_of_ne_zero (h : angle ≠ 0) :
    sweptTo cursor radius (sweptTo cursor radius angle point) point
        = sweptTo cursor radius angle point
      ↔ ¬ Escapes (arcCenter cursor radius angle) (turnBase cursor radius angle) angle point := by
  have hcenter : arcCenter cursor radius (sweptTo cursor radius angle point)
      = arcCenter cursor radius angle :=
    arcCenter_of_iff cursor radius angle _ (draggedAngle_nonpos_iff _ point _ angle h)
  rw [sweptTo_of_center cursor radius angle point _ hcenter, Escapes]
  unfold sweptTo
  by_cases hsnaps : Snaps (arcCenter cursor radius angle) (turnBase cursor radius angle) angle point
  · rw [draggedAngle_of_snaps _ _ _ _ hsnaps, draggedAngle_snappedSweep_iff _ _ _ _ hsnaps,
      and_iff_right hsnaps, not_not]
  -- An angle that was not held back reaches the point already.
  · rw [draggedAngle_of_not_snaps _ _ _ _ hsnaps]
    exact iff_of_true (draggedAngle_of_reaches _ _ _ _ true (reaches_freeSweep _ _ _ _))
      fun hescapes => hsnaps hescapes.1

/-- The center of a turn that is none, and where it is once the turn has become one to the left. -/
theorem arcCenter_sides (sweep : ℝ) (hpos : 0 < sweep) :
    arcCenter cursor radius 0
        = cursor.position - cursor.direction.perpendicular.scale radius ∧
      arcCenter cursor radius sweep
        = cursor.position + cursor.direction.perpendicular.scale radius := by
  unfold arcCenter
  simp only [if_pos (le_refl (0 : ℝ)), if_neg (not_le.mpr hpos), and_true]
  ext
  · simp [sub_eq_add_neg]
  · simp [sub_eq_add_neg]

/-- A turn that is none changes its side if it is dragged to the left. -/
theorem sweptTo_again_of_zero (hcursor : cursor.Headed) :
    sweptTo cursor radius (sweptTo cursor radius 0 point) point = sweptTo cursor radius 0 point
      ↔ ¬ Crosses (arcCenter cursor radius 0) radius (turnBase cursor radius 0) 0 point := by
  have hfirst : sweptTo cursor radius 0 point
      = freeSweep (arcCenter cursor radius 0) (turnBase cursor radius 0) 0 point := by
    refine draggedAngle_of_not_snaps _ _ _ _ ?_
    rintro (⟨hpos, -⟩ | ⟨hneg, -⟩)
    · exact lt_irrefl 0 hpos
    · exact lt_irrefl 0 hneg
  -- If the center has not moved, the angle reaches the point from where it is looked at.
  have hstill (hcenter : arcCenter cursor radius (sweptTo cursor radius 0 point)
      = arcCenter cursor radius 0) :
      sweptTo cursor radius (sweptTo cursor radius 0 point) point
        = sweptTo cursor radius 0 point := by
    rw [sweptTo_of_center cursor radius 0 point _ hcenter]
    refine draggedAngle_of_reaches _ _ _ _ true ?_
    rw [hfirst]
    exact reaches_freeSweep _ _ _ _
  rw [Crosses, ← hfirst]
  by_cases hpos : 0 < sweptTo cursor radius 0 point
  · by_cases hradius : radius = 0
    · -- Without a radius both centers are the cursor itself.
      refine iff_of_true (hstill ?_) fun hcrosses => hcrosses.2.1 hradius
      rcases arcCenter_sides cursor radius _ hpos with ⟨hright, hleft⟩
      rw [hright, hleft, hradius]
      ext
      · simp
      · simp
    · rcases arcCenter_sides cursor radius _ hpos with ⟨hright, hleft⟩
      have hoffset : (cursor.direction.perpendicular.scale radius).length ≠ 0 := by
        rw [Vec.length_scale, Vec.length_perpendicular, hcursor, one_mul]
        exact abs_ne_zero.mpr hradius
      have hbase : turnBase cursor radius 0
          = (cursor.direction.perpendicular.scale radius).angle := by
        rw [turnBase, hright, Vec.sub_sub_self]
      have hbase' : turnBase cursor radius (sweptTo cursor radius 0 point)
          = (-cursor.direction.perpendicular.scale radius).angle := by
        rw [turnBase, hleft, Vec.sub_add_self]
      have hopposite := draggedAngle_opposite_iff cursor.position
        (cursor.direction.perpendicular.scale radius) point hoffset
        (sweptTo cursor radius 0 point) (by rw [hfirst, hright, hbase]) hpos
      rw [← hleft, ← hbase'] at hopposite
      rw [sweptTo, hopposite]
      exact ⟨fun hleast hcrosses => hcrosses.2.2.2 hleast,
        fun hstays => not_not.mp fun hother => hstays ⟨rfl, hradius, hpos, hother⟩⟩
  · -- The turn is drawn as one to the right before and after the drag.
    have hside : sweptTo cursor radius 0 point ≤ 0 ↔ (0 : ℝ) ≤ 0 :=
      iff_of_true (not_lt.mp hpos) le_rfl
    exact iff_of_true (hstill (arcCenter_of_iff cursor radius 0 _ hside))
      fun hcrosses => hpos hcrosses.2.2.1

/-- The end of a turn that leaves straight on, dragged again. -/
theorem sweptTo_again_iff (hcursor : cursor.Headed) :
    sweptTo cursor radius (sweptTo cursor radius angle point) point
        = sweptTo cursor radius angle point
      ↔ ¬ (Grip.onArc (arcCenter cursor radius angle) radius (turnBase cursor radius angle) angle
          true).Restless point := by
  rw [Grip.Restless, not_or]
  by_cases hzero : angle = 0
  · rw [hzero, sweptTo_again_of_zero cursor radius point hcursor]
    exact (and_iff_right fun hescapes => ne_zero_of_snaps _ _ _ _ hescapes.1 rfl).symm
  · rw [sweptTo_again_of_ne_zero cursor radius angle point hzero]
    exact (and_iff_left fun hcrosses => hzero hcrosses.1).symm

end Turns

/-- The center of a turn, dragged again. The first drag has put it where the second one wants it. -/
theorem turned_again (angle signed : ℝ) :
    let turned := if (decide (0 ≤ signed) != decide (0 < angle)) = true then -angle else angle
    (if (decide (0 ≤ signed) != decide (0 < turned)) = true then -turned else turned) = turned := by
  intro turned
  by_cases hzero : angle = 0
  · -- An angle that is zero is zero on either side.
    have hnone : turned = 0 := by
      simp only [turned, hzero, neg_zero, ite_self]
    rw [hnone, neg_zero, ite_self]
  · rw [decide_pos_turned angle signed hzero, bne_self_eq_false, if_neg Bool.false_ne_true]

-- By cases on the statement and on the place of the handle among its own. What the second drag
-- computes is what the first one did, except for the angles of turns.
theorem drag_again (s : Statement ℝ) (cursor : Pose ℝ) (address : Address) (j : Nat) (h : Handle ℝ)
    (point : Vec ℝ) (hcursor : cursor.Headed) (hj : (s.handles cursor address)[j]? = some h) :
    ∃ s' h' s'', h.grip.drag? s h.address.argument point = some s' ∧
      (s'.handles cursor address)[j]? = some h' ∧ h'.address = h.address ∧
      h'.grip.drag? s' h'.address.argument point = some s'' ∧
      (s'' = s' ↔ ¬ h.grip.Restless point) := by
  cases s with
  | start _ | line _ | lineContinue _ =>
      -- These write what the drag point gives, whatever was there before.
      rcases j with _ | j
      · rw [← Option.some.inj hj]
        exact ⟨_, _, _, rfl, rfl, rfl, rfl, iff_of_true rfl not_false⟩
      · exact nomatch hj
  | arc center angle =>
      rcases j with _ | _ | j
      · rw [← Option.some.inj hj]
        exact ⟨_, _, _, rfl, rfl, rfl, rfl, iff_of_true rfl not_false⟩
      · -- The center does not depend on the angle, so the point is looked at from there again.
        rw [← Option.some.inj hj]
        refine ⟨_, _, _, rfl, rfl, rfl, rfl, iff_of_true ?_ not_false⟩
        exact congrArg (Statement.arc center) (draggedAngle_of_reaches center _ _ point false
          (reaches_freeSweep center _ angle point))
      · exact nomatch hj
  | arcContinue radius angle =>
      rcases j with _ | _ | j
      · rw [← Option.some.inj hj]
        refine ⟨_, _, _, rfl, rfl, rfl, rfl, iff_of_true ?_ not_false⟩
        -- The radius comes from the point again, and the side has been chosen.
        exact congrArg (Statement.arcContinue _) (turned_again angle
          (signedRadius cursor.position cursor.direction point))
      · rw [← Option.some.inj hj]
        refine ⟨_, _, _, rfl, rfl, rfl, rfl, ?_⟩
        refine Iff.trans ?_ (sweptTo_again_iff cursor radius angle point hcursor)
        -- The radius is kept, so the statements are equal if the angles are.
        exact ⟨fun hsame => (Statement.arcContinue.inj hsame).2, congrArg _⟩
      · exact nomatch hj
  | bezier _ _ _ _ | bezierContinue _ _ _ _ =>
      rcases j with _ | _ | _ | j
      · rw [← Option.some.inj hj]
        exact ⟨_, _, _, rfl, rfl, rfl, rfl, iff_of_true rfl not_false⟩
      · rw [← Option.some.inj hj]
        exact ⟨_, _, _, rfl, rfl, rfl, rfl, iff_of_true rfl not_false⟩
      · rw [← Option.some.inj hj]
        exact ⟨_, _, _, rfl, rfl, rfl, rfl, iff_of_true rfl not_false⟩
      · exact nomatch hj

/-- A restless drag is one of the end of a turn that leaves straight on, by an angle smaller than
    the one that is written where one is held back. -/
theorem Grip.Restless.exists_small (g : Grip ℝ) (point : Vec ℝ) (h : g.Restless point) :
    ∃ center distance baseAngle angle, g = .onArc center distance baseAngle angle true ∧
      |angle| < minimalSweep := by
  cases g with
  | onArc center distance baseAngle angle keepsSign =>
      cases keepsSign with
      | true =>
          refine ⟨center, distance, baseAngle, angle, rfl, ?_⟩
          rcases h with hescapes | hcrosses
          · exact abs_lt_of_escapes center baseAngle angle point hescapes
          -- A turn that was none had the angle zero.
          · rw [hcrosses.1, abs_zero, minimalSweep_eq]
            norm_num
      | false => exact h.elim
  | _ => exact h.elim

/-- The handle that has the same place in the list after a drag, dragged to the same point. -/
theorem exists_again (p : Program ℝ) (k : Nat) (h : Handle ℝ) (point : Vec ℝ)
    (hk : p.handles[k]? = some h) : ∃ h', (p.change h point).handles[k]? = some h' ∧
      ((p.change h point).change h' point = p.change h point ↔ ¬ h.grip.Restless point) := by
  rcases exists_site p k h hk with ⟨site, s, j, rfl, rfl, hj⟩
  have haddress := s.address_handles site.cursor (site.address 0) h
    (List.mem_iff_getElem?.mpr ⟨j, hj⟩)
  rcases drag_again s site.cursor (site.address 0) j h point site.headed_cursor hj with
    ⟨s', h', s'', hdrag, hj', haddress', hdrag', hagain⟩
  -- Both drags put another statement in the same site.
  rw [site.change_fill s s' h point _ haddress hdrag]
  refine ⟨h', ?_, ?_⟩
  · rw [site.getElem?_handles_fill s' j (List.getElem?_eq_some_iff.mp hj').1]
    exact hj'
  · have hsite : h'.address = site.address h'.address.argument := by
      rw [haddress', haddress]
      rfl
    rw [site.change_fill s' s'' h' point _ hsite hdrag', site.fill_inj_iff, hagain]

/-- Repeating a drag. The handle that has the same place in the list after a drag, dragged to the
    same point, leaves the program as the first drag left it, exactly if the drag is not a restless
    one. So only the end of a turn that leaves straight on can move again, and only if the turn was
    by an angle smaller than the one that is written where one is held back. -/
theorem change_again (p : Program ℝ) (k : Nat) (h : Handle ℝ) (point : Vec ℝ)
    (hk : p.handles[k]? = some h) :
    (∃ h', (p.change h point).handles[k]? = some h' ∧
      ((p.change h point).change h' point = p.change h point ↔ ¬ h.grip.Restless point)) ∧
    (h.grip.Restless point → ∃ center distance baseAngle angle,
      h.grip = .onArc center distance baseAngle angle true ∧ |angle| < minimalSweep) :=
  ⟨exists_again p k h point hk, Grip.Restless.exists_small h.grip point⟩

/-- The end of a turn by a very small angle, dragged to the other side of the circle. The angle that
    is refused is half a turn below the one that is written. -/
theorem change_again_small :
    let p : Program ℝ := ⟨[⟨.uniform, 1, [.arcContinue 1 (1 / 200)]⟩]⟩
    let center : Vec ℝ := arcCenter Pose.origin 1 (1 / 200)
    let baseAngle := turnBase Pose.origin 1 (1 / 200)
    let h : Handle ℝ := ⟨⟨0, 0, 1⟩, .arc, .keyPoint, .onArc center 1 baseAngle (1 / 200) true⟩
    let point := center + Vec.ofAngle (baseAngle + (1 / 100 - Real.pi)) 1
    p.handles[1]? = some h ∧ h.grip.Restless point ∧ ∃ h',
      (p.change h point).handles[1]? = some h' ∧
        (p.change h point).change h' point ≠ p.change h point := by
  intro p center baseAngle h point
  have hpi := Real.pi_gt_three
  have hreaches : Reaches center baseAngle point (1 / 100 - Real.pi) :=
    reaches_ofAngle center baseAngle _ 1 one_pos
  -- The refused angle is in the window around the old angle, but only just outside that of the new
  -- one.
  have hsweep : freeSweep center baseAngle (1 / 200) point = 1 / 100 - Real.pi := by
    refine freeSweep_of_reaches _ _ _ _ _ hreaches ⟨?_, ?_⟩
    · linarith
    · linarith
  have hrestless : h.grip.Restless point := by
    refine Or.inl ⟨Or.inl ⟨by norm_num, ?_⟩, ?_⟩
    · rw [hsweep]
      linarith
    · rw [hsweep, snappedSweep, if_pos (by norm_num)]
      exact fun hmem => lt_irrefl _ hmem.1
  rcases (change_again p 1 h point rfl).1 with ⟨h', hk', hagain⟩
  exact ⟨rfl, hrestless, h', hk', fun hsame => hagain.mp hsame hrestless⟩

/-- The end of a turn that is none, dragged to the left and backwards. The first drag makes it a
    quarter turn, whose center is on the other side, and the second drag holds the quarter back. -/
theorem change_again_none :
    let p : Program ℝ := ⟨[⟨.uniform, 1, [.arcContinue 1 0]⟩]⟩
    ∃ h h', p.handles[1]? = some h ∧ (p.change h ⟨-1, -1⟩).handles[1]? = some h' ∧
      (p.change h ⟨-1, -1⟩).change h' ⟨-1, -1⟩ ≠ p.change h ⟨-1, -1⟩ := by
  intro p
  have hpi := Real.pi_gt_three
  have hcenter : arcCenter (Pose.origin : Pose ℝ) 1 0 = ⟨0, -1⟩ := by
    rw [(arcCenter_sides Pose.origin 1 1 one_pos).1]
    ext
    · simp [Pose.origin, Vec.zero, Vec.unitX]
    · simp [Pose.origin, Vec.zero, Vec.unitX]
  have hbase : turnBase (Pose.origin : Pose ℝ) 1 0 = Real.pi / 2 := by
    have hoffset : (Pose.origin : Pose ℝ).position - ⟨0, -1⟩ = ⟨0, 1⟩ := by
      ext
      · simp [Pose.origin, Vec.zero]
      · simp [Pose.origin, Vec.zero]
    rw [turnBase, hcenter, hoffset]
    exact Complex.arg_I
  have htarget : ((⟨-1, -1⟩ : Vec ℝ) - ⟨0, -1⟩).angle = Real.pi := by
    have hoffset : (⟨-1, -1⟩ : Vec ℝ) - ⟨0, -1⟩ = ⟨-1, 0⟩ := by
      ext
      · simp
      · simp
    have hminus : (⟨-1, 0⟩ : ℂ) = -1 := by
      apply Complex.ext
      · simp
      · simp
    rw [hoffset]
    exact (congrArg Complex.arg hminus).trans Complex.arg_neg_one
  have hsweep : freeSweep ⟨0, -1⟩ (Real.pi / 2) 0 ⟨-1, -1⟩ = Real.pi / 2 := by
    refine freeSweep_of_reaches _ _ _ _ _ ?_ ⟨?_, ?_⟩
    · rw [reaches_iff, htarget, sub_half]
    · linarith
    · linarith
  let h : Handle ℝ := ⟨⟨0, 0, 1⟩, .arc, .keyPoint,
    .onArc (arcCenter Pose.origin 1 0) 1 (turnBase Pose.origin 1 0) 0 true⟩
  have hrestless : h.grip.Restless ⟨-1, -1⟩ := by
    refine Or.inr ⟨rfl, one_ne_zero, ?_, ?_⟩
    · rw [hcenter, hbase, hsweep]
      linarith
    · rw [hcenter, hbase, hsweep, minimalSweep_eq]
      linarith
  rcases exists_again p 1 h ⟨-1, -1⟩ rfl with ⟨h', hk', hagain⟩
  exact ⟨h, h', rfl, hk', fun hsame => hagain.mp hsame hrestless⟩

end PlanarMotion
