import PlanarMotion.Proofs.Handle.Reach

/-!
# Handles That Stay Where They Are

A handle that is dragged to the place where it is drawn already changes nothing. Drawing
turns a literal into a point, so this says that the drag turns that very point back into the
same literal: no literal is drawn at a place from which it could not be told.

Points tell everything about themselves. A distance along a ray can be told because the
cursor's direction has length one. For an angle the point is not enough, as it does not know
how many whole turns led to it; but a drag takes the angle that is nearest to the old one, which
is the old one if the turn ends there already. The radius of a turn is told together with the
side, by the sign of the same number.

A turn without radius has nothing to tell an angle or a side from, so it is left out here.

## Main definitions

* `Statement.Wide`: The turn that a statement draws has a radius.

## Theorems

* `rayLength_ahead`, `draggedAngle_self`, `signedRadius_self`: A literal is told from where
  it is drawn.
* `drag_position`: So a drag in place leaves the statement.
* `edit_position`: And the program.
-/

namespace PlanarMotion

/-- The turn that a statement draws has a radius: its center is not at the cursor, and a
    radius that is given is positive. What draws no turn is wide in any case. -/
def Statement.Wide (cursor : Pose ℝ) : Statement ℝ → Prop
  | .arc center _ => 0 < (cursor.position - center).length
  | .arcContinue radius _ => 0 < radius
  | _ => True

/-- What is drawn a length ahead is measured to be that length ahead. -/
theorem rayLength_ahead (anchor direction : Vec ℝ) (length : ℝ) (h : direction.length = 1) :
    rayLength anchor direction (anchor + direction.scale length) = length := by
  rw [rayLength, Vec.normalized_of_length direction h]
  rw [Vec.length_eq_one_iff] at h
  simp only [Vec.dot_eq, Vec.sub_x, Vec.sub_y, Vec.add_x, Vec.add_y, Vec.scale_x, Vec.scale_y,
    add_sub_cancel_left]
  linear_combination length * h

/-- The end of a turn is in the direction that the turn reached, so its angle is the nearest one. -/
theorem draggedAngle_self (center : Vec ℝ) (radius baseAngle angle : ℝ) (keepsSign : Bool)
    (h : 0 < radius) :
    draggedAngle center baseAngle angle keepsSign
      (center + Vec.ofAngle (baseAngle + angle) radius) = angle :=
  draggedAngle_of_reaches center baseAngle angle _ keepsSign
    (reaches_ofAngle center baseAngle angle radius h)

/-- The center of a turn is as far to the left or to the right as it was drawn. -/
theorem signedRadius_self (start direction : Vec ℝ) (side : Bool) (radius : ℝ)
    (h : direction.length = 1) :
    signedRadius start direction (Grip.radius start direction side radius).position
      = if side then radius else -radius := by
  -- The normal is of length one, so measuring along it gives back what was drawn.
  have hnormal : direction.perpendicular.length = 1 := by
    rw [Vec.length_perpendicular, h]
  have hunit := (Vec.length_eq_one_iff _).mp hnormal
  rw [signedRadius, Vec.rotate_quarterTurn, Vec.normalized_of_length _ hnormal, Grip.position]
  simp only [Vec.normalized_of_length direction h]
  cases side with
  | true =>
      simp only [if_true, Vec.dot_eq, Vec.sub_x, Vec.sub_y, Vec.add_x, Vec.add_y, Vec.scale_x,
        Vec.scale_y, add_sub_cancel_left]
      linear_combination radius * hunit
  | false =>
      simp only [Bool.false_eq_true, if_false, Vec.dot_eq, Vec.sub_x, Vec.sub_y, Vec.add_x,
        Vec.add_y, Vec.scale_x, Vec.scale_y, Vec.neg_x, Vec.neg_y, add_sub_cancel_left]
      linear_combination -radius * hunit

/-- The radius handle in place: the side is told from the sign of what the radius is told
    from, so neither of them changes. -/
theorem drag_radius_position (cursor : Pose ℝ) (radius angle : ℝ) (argument : Int)
    (hcursor : cursor.Headed) (hradius : 0 < radius) :
    let g := Grip.radius cursor.position cursor.direction (decide (0 < angle)) radius
    g.drag? (.arcContinue radius angle) argument g.position = some (.arcContinue radius angle) := by
  have hsigned := signedRadius_self cursor.position cursor.direction (decide (0 < angle)) radius
    hcursor
  simp only [Grip.drag?, hsigned, Statement.setRadius?]
  by_cases hleft : 0 < angle
  -- To the left the signed radius is the radius, which is positive.
  · have habs : Scalar.abs radius = radius := abs_of_pos hradius
    simp [hleft, habs, hradius.le]
  · have habs : Scalar.abs (-radius) = radius := by
      have hneg : |(-radius)| = radius := by rw [abs_neg, abs_of_pos hradius]
      exact hneg
    simp [hleft, habs, hradius]

-- By cases on the statement and on which of its handles it is, as for a drag to anywhere else.
theorem drag_position (s : Statement ℝ) (cursor : Pose ℝ) (address : Address)
    (hcursor : cursor.Headed) (hwide : s.Wide cursor) :
    ∀ h ∈ s.handles cursor address, h.grip.drag? s h.address.argument h.position = some s := by
  cases s with
  | start point => exact List.forall_mem_singleton.mpr rfl
  | line stop => exact List.forall_mem_singleton.mpr rfl
  | lineContinue length =>
      have hlength := rayLength_ahead cursor.position cursor.direction length hcursor
      exact List.forall_mem_singleton.mpr
        (congrArg (fun l => some (Statement.lineContinue l)) hlength)
  | arc center angle =>
      have hangle := draggedAngle_self center _ (cursor.position - center).angle angle false hwide
      exact List.forall_mem_cons.mpr ⟨rfl, List.forall_mem_singleton.mpr
        (congrArg (fun a => some (Statement.arc center a)) hangle)⟩
  | arcContinue radius angle =>
      have hangle := draggedAngle_self (arcCenter cursor radius angle) radius
        (cursor.position - arcCenter cursor radius angle).angle angle true hwide
      exact List.forall_mem_cons.mpr ⟨drag_radius_position cursor radius angle 0 hcursor hwide,
        List.forall_mem_singleton.mpr
          (congrArg (fun a => some (Statement.arcContinue radius a)) hangle)⟩
  | bezier c1 c2 stop segments =>
      exact List.forall_mem_cons.mpr ⟨rfl, List.forall_mem_cons.mpr ⟨rfl,
        List.forall_mem_singleton.mpr rfl⟩⟩
  | bezierContinue c1Offset c2 stop segments =>
      have hlength := rayLength_ahead cursor.position cursor.direction c1Offset hcursor
      exact List.forall_mem_cons.mpr
        ⟨congrArg (fun l => some (Statement.bezierContinue l c2 stop segments)) hlength,
          List.forall_mem_cons.mpr ⟨rfl, List.forall_mem_singleton.mpr rfl⟩⟩

/-- A drag in place changes nothing. Any handle of a program, dragged to where it is drawn, is
    accepted and leaves the program as it is, if the turn that it may belong to has a radius. -/
theorem edit_position (p : Program ℝ) (h : Handle ℝ) (hmem : h ∈ p.handles)
    (hwide : ∀ s cursor, p.statementAt? h.address = some s → p.cursorAt? h.address = some cursor →
      s.Wide cursor) :
    p.edit h h.position = .ok p ∧ p.change h h.position = p := by
  rcases List.mem_iff_getElem?.mp hmem with ⟨k, hk⟩
  rcases exists_site p k h hk with ⟨site, s, j, rfl, rfl, hj⟩
  have hown := List.mem_iff_getElem?.mpr ⟨j, hj⟩
  have haddress : h.address = site.address h.address.argument :=
    s.address_handles site.cursor (site.address 0) h hown
  -- The condition on the program is one on the statement at its site.
  have hturn : s.Wide site.cursor := by
    refine hwide s site.cursor ?_ ?_
    · rw [haddress]
      exact site.statementAt?_fill s _
    · rw [haddress]
      exact site.cursorAt?_fill s _
  have hdrag := drag_position s site.cursor (site.address 0) site.headed_cursor hturn h hown
  -- The dragged statement is the old one, and filling the site with it gives the program back.
  have hedit : (site.fill s).edit h h.position = .ok (site.fill s) := by
    rw [site.edit_fill s h h.position h.address.argument haddress, hdrag]
  exact ⟨hedit, by rw [Program.change, hedit]⟩

/-- The end of a turn of more than one and a half times around, to the right. -/
theorem edit_position_turn :
    let p : Program ℝ := ⟨[⟨.uniform, 1, [.arc ⟨0, 1⟩ (-10)]⟩]⟩
    let h : Handle ℝ := ⟨⟨0, 0, 1⟩, .arc, .keyPoint,
      .onArc ⟨0, 1⟩ (Vec.zero - ⟨0, 1⟩ : Vec ℝ).length (Vec.zero - ⟨0, 1⟩ : Vec ℝ).angle (-10)
        false⟩
    h ∈ p.handles ∧ 0 < (Vec.zero - ⟨0, 1⟩ : Vec ℝ).length ∧ p.edit h h.position = .ok p ∧
      p.change h h.position = p := by
  intro p h
  have hmem : h ∈ p.handles := List.mem_cons_of_mem _ (List.mem_singleton.mpr rfl)
  -- The center is not at the cursor.
  have hlength : 0 < (Vec.zero - ⟨0, 1⟩ : Vec ℝ).length :=
    length_sub_pos _ _ fun hsame => zero_ne_one (congrArg Vec.y hsame)
  refine ⟨hmem, hlength, edit_position p h hmem ?_⟩
  intro s cursor hs hcursor
  rw [← Option.some.inj hs, ← Option.some.inj hcursor]
  exact hlength

end PlanarMotion
