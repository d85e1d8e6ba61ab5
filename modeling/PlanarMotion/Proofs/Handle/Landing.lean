import PlanarMotion.Proofs.Handle.Site
import PlanarMotion.Proofs.Plane.Heading
import PlanarMotion.Proofs.Plane.Projection

/-!
# Where a Dragged Handle Lands

A drag turns a point into a literal, and drawing turns the literal into a point again. The
two ways are not written alike. A radius is measured along a direction that was turned by a
sine and a cosine, and drawn along one that was turned by swapping coordinates; an angle is
wrapped on one way and added up on the other. Here it is shown that they agree over the real
numbers: the handle is drawn where the projection of the drag point is.

Two things need an argument beyond computing. A handle on a line needs the line, so the
cursor's direction must never vanish. And a turn that leaves straight on has its center on
the side that the sign of its angle says, so the center would move if a drag of its end
could change that sign. It cannot, as the sign is locked; a drag of the center does change
it, and then the projection lies on the other side as well.

The handle with the same place in the list is the same handle, which is what sites are for.

## Main definitions

* `freeSweep`, `Snaps`, `snappedSweep`: The angle after a drag, and when it is held back.
* `Lands`: Where a handle is to be found after a drag.

## Theorems

* `position_signedRadius`: A dragged center is on the projection, on either side.
* `ofAngle_freeSweep`: A sweep that nothing held back ends at the angle of the point.
* `draggedAngle_nonpos_iff`: A locked sign stays.
* `decide_pos_turned`: A dragged center is on the side that the angle says.
* `drag_lands`: Every handle of a statement lands, for every kind of statement.
* `change_lands`: Every handle of a program lands.
-/

namespace PlanarMotion

/-- The angle after a drag, before its sign is looked at. -/
noncomputable def freeSweep (center : Vec ℝ) (baseAngle angle : ℝ) (point : Vec ℝ) : ℝ :=
  draggedAngle center baseAngle angle false point

/-- A drag would have changed the sign of a turn. -/
def Snaps (center : Vec ℝ) (baseAngle angle : ℝ) (point : Vec ℝ) : Prop :=
  (0 < angle ∧ freeSweep center baseAngle angle point ≤ 0) ∨
    (angle < 0 ∧ 0 ≤ freeSweep center baseAngle angle point)

/-- The angle that is left where a drag would have changed the sign. -/
noncomputable def snappedSweep (angle : ℝ) : ℝ :=
  if 0 < angle then 1 / 100 else -(1 / 100)

/-- Where a handle of a statement is to be found after a drag to a point. -/
def Lands (s : Statement ℝ) (g : Grip ℝ) (point image : Vec ℝ) : Prop :=
  match g, s with
  | .free _, _ => image = point
  | .ray anchor direction _, _ => IsProjection anchor direction point image
  | .radius start direction _ _, .arcContinue _ angle =>
    angle ≠ 0 → IsProjection start direction.perpendicular point image
  | .onArc center radius _ _ _, .arc _ _ => point ≠ center → IsOnRay center radius point image
  | .onArc center radius baseAngle _ _, .arcContinue _ angle =>
    0 < radius → angle ≠ 0 → point ≠ center →
      (¬ Snaps center baseAngle angle point → IsOnRay center radius point image) ∧
      (Snaps center baseAngle angle point →
        image = center + Vec.ofAngle (baseAngle + snappedSweep angle) radius)
  | _, _ => False

/-- The length that a drag chooses puts the end of a ray at the projection. -/
theorem isProjection_rayLength (anchor direction point : Vec ℝ) (h : direction.length = 1) :
    IsProjection anchor direction point
      (anchor + direction.scale (rayLength anchor direction point)) := by
  rw [rayLength, Vec.normalized_of_length direction h]
  exact isProjection_scale anchor direction point h

/-- So does the radius, along the normal. -/
theorem isProjection_signedRadius (start direction point : Vec ℝ) (h : direction.length = 1) :
    IsProjection start direction.perpendicular point
      (start + direction.perpendicular.scale (signedRadius start direction point)) := by
  have hnormal : direction.perpendicular.length = 1 := by
    rw [Vec.length_perpendicular, h]
  rw [signedRadius, Vec.rotate_quarterTurn, Vec.normalized_of_length _ hnormal]
  exact isProjection_scale start direction.perpendicular point hnormal

/-- The radius and the side that a drag chooses put the center where the projection is,
    whatever side it was on. -/
theorem position_signedRadius (start direction : Vec ℝ) (signed : ℝ) (h : direction.length = 1) :
    (Grip.radius start direction (decide (0 ≤ signed)) (Scalar.abs signed)).position
      = start + direction.perpendicular.scale signed := by
  rw [Grip.position]
  simp only [Vec.normalized_of_length direction h, decide_eq_true_eq]
  -- On the right both the side and the radius change their sign, and the two cancel.
  by_cases hleft : 0 ≤ signed
  · have habs : Scalar.abs signed = signed := abs_of_nonneg hleft
    rw [if_pos hleft, habs]
  · have habs : Scalar.abs signed = -signed := abs_of_neg (not_le.mp hleft)
    rw [if_neg hleft, habs]
    ext <;> simp

/-- A sweep that nothing held back ends at the angle of the point, up to whole turns. -/
theorem ofAngle_freeSweep (center point : Vec ℝ) (baseAngle angle radius : ℝ) :
    Vec.ofAngle (baseAngle + freeSweep center baseAngle angle point) radius
      = Vec.ofAngle (point - center).angle radius := by
  have hsweep : freeSweep center baseAngle angle point
      = angle + Scalar.wrapAngle ((point - center).angle - (baseAngle + angle)) := rfl
  rw [hsweep, ← add_assoc, Vec.ofAngle_wrapAngle, add_sub_cancel]

/-- The sweep that stands for a sign held back is a hundredth. -/
theorem minimalSweep_eq : (minimalSweep : ℝ) = 1 / 100 := by
  have hhundred : ((100 : ℕ) : ℝ) = 100 := Nat.cast_ofNat
  rw [← hhundred]
  rfl

/-- An angle whose sign would not change is not held back. -/
theorem draggedAngle_of_not_snaps (center point : Vec ℝ) (baseAngle angle : ℝ)
    (h : ¬ Snaps center baseAngle angle point) :
    draggedAngle center baseAngle angle true point = freeSweep center baseAngle angle point := by
  rw [Snaps, not_or] at h
  unfold freeSweep draggedAngle at h ⊢
  simp only [Bool.false_eq_true, if_false, if_true] at h ⊢
  rw [if_neg h.1, if_neg h.2]

/-- One whose sign would change is left small. -/
theorem draggedAngle_of_snaps (center point : Vec ℝ) (baseAngle angle : ℝ)
    (h : Snaps center baseAngle angle point) :
    draggedAngle center baseAngle angle true point = snappedSweep angle := by
  unfold Snaps freeSweep draggedAngle at h
  unfold snappedSweep draggedAngle
  simp only [Bool.false_eq_true, if_false, if_true, minimalSweep_eq] at h ⊢
  by_cases hpos : 0 < angle
  · -- A positive angle can only have been dragged down.
    have hdown := h.resolve_right (fun hneg => lt_asymm hpos hneg.1)
    rw [if_pos hdown, if_pos hpos]
  · have hup := h.resolve_left (fun hdown => hpos hdown.1)
    rw [if_neg (fun hdown => hpos hdown.1), if_pos hup, if_neg hpos]

/-- A locked sign stays, so the turn stays on its side. -/
theorem draggedAngle_nonpos_iff (center point : Vec ℝ) (baseAngle angle : ℝ) (h : angle ≠ 0) :
    draggedAngle center baseAngle angle true point ≤ 0 ↔ angle ≤ 0 := by
  by_cases hsnaps : Snaps center baseAngle angle point
  · rw [draggedAngle_of_snaps center point baseAngle angle hsnaps, snappedSweep]
    by_cases hpos : 0 < angle
    · rw [if_pos hpos]
      exact iff_of_false (by norm_num) (not_le.mpr hpos)
    · rw [if_neg hpos]
      exact iff_of_true (by norm_num) (not_lt.mp hpos)
  · rw [draggedAngle_of_not_snaps center point baseAngle angle hsnaps]
    rw [Snaps, not_or] at hsnaps
    -- Not held back, so the nearest angle has the old sign.
    rcases lt_or_gt_of_ne h with hneg | hpos
    · exact iff_of_true (not_le.mp (fun hge => hsnaps.2 ⟨hneg, hge⟩)).le hneg.le
    · exact iff_of_false (fun hle => hsnaps.1 ⟨hpos, hle⟩) (not_le.mpr hpos)

/-- The center of a turn depends on its angle by the side alone. -/
theorem arcCenter_of_iff (cursor : Pose ℝ) (radius angle angle' : ℝ) (h : angle' ≤ 0 ↔ angle ≤ 0) :
    arcCenter cursor radius angle' = arcCenter cursor radius angle := by
  unfold arcCenter
  simp only
  by_cases hside : angle ≤ 0
  · rw [if_pos hside, if_pos (h.mpr hside)]
  · rw [if_neg hside, if_neg (fun h' => hside (h.mp h'))]

/-- After a drag of its center a turn goes to the left exactly if the center is there. -/
theorem decide_pos_turned (angle signed : ℝ) (h : angle ≠ 0) :
    decide (0 < if (decide (0 ≤ signed) != decide (0 < angle)) = true then -angle else angle)
      = decide (0 ≤ signed) := by
  by_cases hs : 0 ≤ signed
  · by_cases hpos : 0 < angle
    · simp [hs, hpos]
    · have hneg : angle < 0 := lt_of_le_of_ne (not_lt.mp hpos) h
      simp [hs, hpos, hneg]
  · by_cases hpos : 0 < angle
    · simp [hs, hpos, hpos.le]
    · simp [hs, hpos]

/-- The radius handle. Which side the center was on only decides whether the drag crosses the
    direction; where it lands does not depend on it. -/
theorem lands_radius (cursor : Pose ℝ) (angle : ℝ) (point : Vec ℝ) (hcursor : cursor.Headed)
    (side : Bool) (hside : side = decide (0 < angle)) (hangle : angle ≠ 0) :
    IsProjection cursor.position cursor.direction.perpendicular point
      (Grip.radius cursor.position cursor.direction
        (decide (0 < if (decide (0 ≤ signedRadius cursor.position cursor.direction point) != side)
          then -angle else angle))
        (Scalar.abs (signedRadius cursor.position cursor.direction point))).position := by
  rw [hside, decide_pos_turned angle _ hangle, position_signedRadius _ _ _ hcursor]
  exact isProjection_signedRadius _ _ _ hcursor

/-- The handle at the end of a turn that leaves straight on. The sign of the angle is locked,
    so the center is where it was, and the end is where the sweep says. -/
theorem lands_onArc (cursor : Pose ℝ) (radius angle : ℝ) (point : Vec ℝ) (hradius : 0 < radius)
    (hangle : angle ≠ 0) (center : Vec ℝ) (hcenter : center = arcCenter cursor radius angle)
    (baseAngle : ℝ) (hbase : baseAngle = (cursor.position - center).angle)
    (sweep : ℝ) (hsweep : sweep = draggedAngle center baseAngle angle true point)
    (hne : point ≠ center) :
    let image := arcCenter cursor radius sweep + Vec.ofAngle
      ((cursor.position - arcCenter cursor radius sweep).angle + sweep) radius
    (¬ Snaps center baseAngle angle point → IsOnRay center radius point image) ∧
      (Snaps center baseAngle angle point →
        image = center + Vec.ofAngle (baseAngle + snappedSweep angle) radius) := by
  -- The new sweep is of the old sign, and the center depends on the sweep by its sign alone.
  have hsame : arcCenter cursor radius sweep = center := by
    rw [hcenter]
    refine arcCenter_of_iff cursor radius angle sweep ?_
    rw [hsweep]
    exact draggedAngle_nonpos_iff center point baseAngle angle hangle
  simp only [hsame, ← hbase]
  constructor
  · intro hfree
    -- The sweep ends at the angle of the point, and so on the ray through it.
    rw [hsweep, draggedAngle_of_not_snaps center point baseAngle angle hfree, ofAngle_freeSweep]
    exact isOnRay_ofAngle center point radius hradius.le hne
  · intro hsnaps
    rw [hsweep, draggedAngle_of_snaps center point baseAngle angle hsnaps]

-- By cases on the statement and on the place of the handle among its own. A free handle is the
-- argument it stands for; the others are put back together from the literal they became.
theorem drag_lands (s : Statement ℝ) (cursor : Pose ℝ) (address : Address) (j : Nat) (h : Handle ℝ)
    (point : Vec ℝ) (hcursor : cursor.Headed) (hj : (s.handles cursor address)[j]? = some h) :
    ∃ argument s' h', h.address = { address with argument := argument } ∧
      h.grip.drag? s argument point = some s' ∧ (s'.handles cursor address)[j]? = some h' ∧
      Lands s h.grip point h'.position := by
  cases s with
  | start start =>
      rcases j with _ | j
      · rw [← Option.some.inj hj]
        exact ⟨0, .start point, _, rfl, rfl, rfl, rfl⟩
      · exact nomatch hj
  | line stop =>
      rcases j with _ | j
      · rw [← Option.some.inj hj]
        exact ⟨0, .line point, _, rfl, rfl, rfl, rfl⟩
      · exact nomatch hj
  | lineContinue length =>
      rcases j with _ | j
      · rw [← Option.some.inj hj]
        exact ⟨0, _, _, rfl, rfl, rfl, isProjection_rayLength _ _ point hcursor⟩
      · exact nomatch hj
  | arc center angle =>
      rcases j with _ | _ | j
      · rw [← Option.some.inj hj]
        exact ⟨0, .arc point angle, _, rfl, rfl, rfl, rfl⟩
      · -- Nothing locks the sign here, so the sweep always ends at the angle of the point.
        rw [← Option.some.inj hj]
        refine ⟨1, _, _, rfl, rfl, rfl, ?_⟩
        intro hne
        have hlands := isOnRay_ofAngle center point _
          (Vec.length_nonneg (cursor.position - center)) hne
        rw [← ofAngle_freeSweep center point (cursor.position - center).angle angle] at hlands
        exact hlands
      · exact nomatch hj
  | arcContinue radius angle =>
      rcases j with _ | _ | j
      · rw [← Option.some.inj hj]
        refine ⟨0, _, _, rfl, rfl, rfl, ?_⟩
        intro hangle
        exact lands_radius cursor angle point hcursor _ rfl hangle
      · rw [← Option.some.inj hj]
        refine ⟨1, _, _, rfl, rfl, rfl, ?_⟩
        intro hradius hangle hne
        exact lands_onArc cursor radius angle point hradius hangle _ rfl _ rfl _ rfl hne
      · exact nomatch hj
  | bezier c1 c2 stop segments =>
      rcases j with _ | _ | _ | j
      · rw [← Option.some.inj hj]
        exact ⟨0, .bezier point c2 stop segments, _, rfl, rfl, rfl, rfl⟩
      · rw [← Option.some.inj hj]
        exact ⟨1, .bezier c1 point stop segments, _, rfl, rfl, rfl, rfl⟩
      · rw [← Option.some.inj hj]
        exact ⟨2, .bezier c1 c2 point segments, _, rfl, rfl, rfl, rfl⟩
      · exact nomatch hj
  | bezierContinue c1Offset c2 stop segments =>
      rcases j with _ | _ | _ | j
      · rw [← Option.some.inj hj]
        exact ⟨0, _, _, rfl, rfl, rfl, isProjection_rayLength _ _ point hcursor⟩
      · rw [← Option.some.inj hj]
        exact ⟨1, .bezierContinue c1Offset point stop segments, _, rfl, rfl, rfl, rfl⟩
      · rw [← Option.some.inj hj]
        exact ⟨2, .bezierContinue c1Offset c2 point segments, _, rfl, rfl, rfl, rfl⟩
      · exact nomatch hj

/-- Phases hand their cursor on, so the heading is kept through all of them. -/
theorem headed_phasesCursor (cursor : Pose ℝ) (phases : List (Phase ℝ)) (h : cursor.Headed) :
    (phasesCursor cursor phases).Headed := by
  induction phases generalizing cursor with
  | nil => exact h
  | cons p phases ih => exact ih _ (PathBuilder.headed_drawAll _ p.statements h)

theorem Site.headed_cursor (site : Site ℝ) : site.cursor.Headed :=
  PathBuilder.headed_drawAll _ site.before
    (headed_phasesCursor _ site.front Pose.headed_origin)

/-- A dragged handle lands where its kind allows. After the drag the handle with the same
    place in the list is drawn at the drag point if it is free, and else at the projection of
    the drag point on the line or the circle that it can be moved on. -/
theorem change_lands (p : Program ℝ) (k : Nat) (h : Handle ℝ) (point : Vec ℝ)
    (hk : p.handles[k]? = some h) :
    ∃ s h', p.statementAt? h.address = some s ∧ (p.change h point).handles[k]? = some h' ∧
      Lands s h.grip point h'.position := by
  -- The drag puts another statement in the same site, and so the handle keeps its place.
  rcases exists_site p k h hk with ⟨site, s, j, rfl, rfl, hj⟩
  rcases drag_lands s site.cursor (site.address 0) j h point site.headed_cursor hj with
    ⟨argument, s', h', haddress, hdrag, hj', hlands⟩
  have hsite : h.address = site.address argument := haddress
  have hchange : (site.fill s).change h point = site.fill s' := by
    rw [Program.change, site.edit_fill s h point argument hsite, hdrag]
  refine ⟨s, h', ?_, ?_, hlands⟩
  · rw [hsite]
    exact site.statementAt?_fill s argument
  · rw [hchange, site.getElem?_handles_fill s' j (List.getElem?_eq_some_iff.mp hj').1]
    exact hj'

/-- The end of a line straight on, dragged off the line. -/
theorem change_lands_ahead : ∃ s h',
    (⟨[⟨.uniform, 1, [.lineContinue 2]⟩]⟩ : Program ℝ).statementAt? ⟨0, 0, 0⟩ = some s ∧
    ((⟨[⟨.uniform, 1, [.lineContinue 2]⟩]⟩ : Program ℝ).change
      ⟨⟨0, 0, 0⟩, .line, .keyPoint, .ray Vec.zero Vec.unitX 2⟩ ⟨3, 4⟩).handles[0]? = some h' ∧
    Lands s (.ray Vec.zero Vec.unitX 2) ⟨3, 4⟩ h'.position :=
  change_lands ⟨[⟨.uniform, 1, [.lineContinue 2]⟩]⟩ 0
    ⟨⟨0, 0, 0⟩, .line, .keyPoint, .ray Vec.zero Vec.unitX 2⟩ ⟨3, 4⟩ rfl

end PlanarMotion
