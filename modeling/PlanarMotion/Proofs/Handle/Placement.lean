import PlanarMotion.Proofs.Handle.Landing
import PlanarMotion.Proofs.Build.Pieces
import PlanarMotion.Proofs.Path.Ends

/-!
# Handles Are Where the Motion Goes

Handles and pieces are derived from the statements of a program by two different functions.
Both are asked here for the same places: where a piece ends, where the center of a turn is,
and where the control points of a curve are. What is compared is everything that a handle
shows, in the order in which the handles come.

They agree as long as no turn has a negative radius. A turn that leaves straight on takes the
radius as it is written, and a negative one moves the center to the other side. The piece then
measures its radius as a distance and starts at the cursor all the same. But the handle at its
end goes from the center by the radius as written, which is the opposite way, and so it is
drawn at the other end of a diameter.

## Main definitions

* `Handle.mark`: What a handle shows.
* `Statement.marks`: What the handles of a statement should show, told from its piece.

## Theorems

* `length_sub_arcCenter`: The distance to the center of a turn.
* `Statement.marks_handles`: The handles of a statement are at its piece.
* `Statement.marks_handles_of_neg`: At a negative radius one of them is opposite.
* `Statement.marks_handles_ne`: So that handle is not at the end.
* `handlesAt_marks`: The first two, for the statements of a program.
-/

namespace PlanarMotion

/-- What a handle shows: its kind, the argument that it changes, and where it is drawn. -/
def Handle.mark {α : Type} [Scalar α] (h : Handle α) : String × Int × Vec α :=
  (h.grip.kind, h.address.argument, h.position)

/-- What the handles of a statement should show, told from the piece that it has become: the
    handle of what ends a piece is where the piece ends, the other handle of a turn is at its
    center, and those of a curve are at its inner control points. -/
def Statement.marks {α : Type} [Scalar α] (s : Statement α) (piece : Path α) :
    List (String × Int × Vec α) :=
  let stop := piece.curve.last.position
  match s, piece with
  | .line _, .line _ => [("Free", 0, stop)]
  | .lineContinue _, .line _ => [("Ray", 0, stop)]
  | .arc _ _, .arc a => [("Free", 0, a.center), ("OnArc", 1, stop)]
  | .arcContinue _ _, .arc a => [("Radius", 0, a.center), ("OnArc", 1, stop)]
  | .bezier .., .polyline p =>
    match p.bezier.points with
    | [_, c1, c2, _] => [("Free", 0, c1), ("Free", 1, c2), ("Free", 2, stop)]
    | _ => []
  | .bezierContinue .., .polyline p =>
    match p.bezier.points with
    | [_, c1, c2, _] => [("Ray", 0, c1), ("Free", 1, c2), ("Free", 2, stop)]
    | _ => []
  | _, _ => []

/-- The center of a turn is as far from the cursor as the radius says. -/
theorem length_sub_arcCenter (cursor : Pose ℝ) (radius angle : ℝ) (h : cursor.Headed) :
    (cursor.position - arcCenter cursor radius angle).length = |radius| := by
  rw [sub_arcCenter, Vec.length_scale, Vec.length_perpendicular, h, one_mul, abs_neg, abs_mul,
    abs_turnSide, one_mul]

/-- A turn that leaves the cursor straight on has its center where its first handle is drawn. -/
theorem position_radius (cursor : Pose ℝ) (radius angle : ℝ) (h : cursor.Headed) :
    (Grip.radius cursor.position cursor.direction (decide (0 < angle)) radius).position
      = arcCenter cursor radius angle := by
  rw [Grip.position, arcCenter, Vec.normalized_of_length _ h]
  -- The grip tells the side by one comparison, the center by the opposite one.
  by_cases hright : angle ≤ 0
  · simp [hright, not_lt.mpr hright]
  · simp [hright, not_le.mp hright]

/-- A turn ends at the angle that it reached, as far from its center as the cursor was. -/
theorem last_arcAround (cursor : Pose ℝ) (center : Vec ℝ) (angle : ℝ) :
    (Path.arc (arcAround cursor center angle)).curve.last.position
      = center + Vec.ofAngle ((cursor.position - center).angle + angle)
          (cursor.position - center).length :=
  (arcAround cursor center angle).position_last (Vec.length_nonneg _)

-- By cases on the statement. Handle and piece name the same points, except at the end of a turn
-- that leaves straight on: there the handle has the radius as written, the piece its length.
theorem Statement.marks_handles (s : Statement ℝ) (cursor : Pose ℝ) (address : Address)
    (piece : Path ℝ) (hcursor : cursor.Headed) (hpiece : s.piece? cursor = some piece)
    (hradius : ∀ radius angle, s = .arcContinue radius angle → 0 ≤ radius) :
    (s.handles cursor address).map Handle.mark = s.marks piece := by
  cases s with
  | start point => exact nomatch hpiece
  | line stop =>
      cases hpiece
      have hlast : (Path.line ⟨cursor.position, stop⟩).curve.last.position = stop :=
        LineSegment.position_last _
      rw [marks, hlast]
      rfl
  | lineContinue length =>
      cases hpiece
      have hlast : (Path.line ⟨cursor.position, cursor.ahead length⟩).curve.last.position
          = cursor.ahead length := LineSegment.position_last _
      rw [marks, hlast]
      rfl
  | arc center angle =>
      cases hpiece
      rw [marks, last_arcAround]
      rfl
  | arcContinue radius angle =>
      cases hpiece
      rw [marks, last_arcAround, length_sub_arcCenter cursor radius angle hcursor,
        abs_of_nonneg (hradius radius angle rfl)]
      have hcenter := position_radius cursor radius angle hcursor
      exact congrArg (fun center => [("Radius", 0, center), _]) hcenter
  | bezier c1 c2 stop segments =>
      cases hpiece
      have hlast : (Path.polyline (Polyline.ofBezier ⟨[cursor.position, c1, c2, stop]⟩
          segments)).curve.last.position = stop := Polyline.position_last _ _ _ _ _
      rw [marks, hlast]
      rfl
  | bezierContinue c1Offset c2 stop segments =>
      cases hpiece
      have hlast : (Path.polyline (Polyline.ofBezier ⟨[cursor.position, cursor.ahead c1Offset, c2,
          stop]⟩ segments)).curve.last.position = stop := Polyline.position_last _ _ _ _ _
      rw [marks, hlast]
      rfl

/-- At a negative radius the handle of the angle is opposite to the end of the piece. -/
theorem Statement.marks_handles_of_neg (radius angle : ℝ) (cursor : Pose ℝ) (address : Address)
    (hcursor : cursor.Headed) (hradius : radius < 0) :
    let center := arcCenter cursor radius angle
    let stop := (Path.arc (arcAround cursor center angle)).curve.last.position
    ((Statement.arcContinue radius angle).handles cursor address).map Handle.mark
      = [("Radius", 0, center), ("OnArc", 1, center.scale 2 - stop)] := by
  intro center stop
  have hcenter : (Grip.radius cursor.position cursor.direction (decide (0 < angle)) radius).position
      = center := position_radius cursor radius angle hcursor
  have hstop : stop
      = center + Vec.ofAngle ((cursor.position - center).angle + angle) (-radius) := by
    rw [← abs_of_neg hradius, ← length_sub_arcCenter cursor radius angle hcursor]
    exact last_arcAround cursor center angle
  -- The handle has the radius as written, which is the length of the way back.
  have hopposite : center + Vec.ofAngle ((cursor.position - center).angle + angle) radius
      = center.scale 2 - stop := by
    rw [hstop]
    ext
    · simp only [Vec.add_x, Vec.sub_x, Vec.scale_x, Vec.ofAngle_x]
      ring
    · simp only [Vec.add_y, Vec.sub_y, Vec.scale_y, Vec.ofAngle_y]
      ring
  rw [← hopposite]
  exact congrArg (fun place => [("Radius", 0, place), _]) hcenter

/-- The end of a turn with a radius is never its opposite point. -/
theorem Statement.marks_handles_ne (radius angle : ℝ) (cursor : Pose ℝ) (address : Address)
    (hcursor : cursor.Headed) (hradius : radius < 0) :
    ((Statement.arcContinue radius angle).handles cursor address).map Handle.mark
      ≠ (Statement.arcContinue radius angle).marks
        (.arc (arcAround cursor (arcCenter cursor radius angle) angle)) := by
  intro hsame
  rw [marks_handles_of_neg radius angle cursor address hcursor hradius, marks, last_arcAround,
    length_sub_arcCenter cursor radius angle hcursor, abs_of_neg hradius] at hsame
  simp only [List.cons.injEq, Prod.mk.injEq, and_true, true_and] at hsame
  have hx := congrArg Vec.x hsame.2
  have hy := congrArg Vec.y hsame.2
  simp only [Vec.add_x, Vec.add_y, Vec.sub_x, Vec.sub_y, Vec.scale_x, Vec.scale_y, Vec.ofAngle_x,
    Vec.ofAngle_y] at hx hy
  -- Both coordinates of the radius vector would be zero.
  have hcos : Real.cos ((cursor.position - arcCenter cursor radius angle).angle + angle) = 0 := by
    nlinarith
  have hsin : Real.sin ((cursor.position - arcCenter cursor radius angle).angle + angle) = 0 := by
    nlinarith
  have hunit := Real.cos_sq_add_sin_sq
    ((cursor.position - arcCenter cursor radius angle).angle + angle)
  rw [hcos, hsin] at hunit
  norm_num at hunit

/-- Handles are where the motion goes. Any statement of a program that draws has become a piece
    of the compiled mover, and its handles are at the places that the piece tells; only if the
    statement gives a negative radius, the one that should be at the end of the piece is at the
    opposite point of the circle. -/
theorem handlesAt_marks (p : Program ℝ) (a : Address) (s : Statement ℝ)
    (hs : p.statementAt? a = some s) (hdraws : s.draws = true) :
    ∃ piece, p.pieceAt? a = some piece ∧
      ((∀ radius angle, s = .arcContinue radius angle → 0 ≤ radius) →
        (p.handlesAt a).map Handle.mark = s.marks piece) ∧
      (∀ radius angle, s = .arcContinue radius angle → radius < 0 → ∃ arc, piece = .arc arc ∧
        (p.handlesAt a).map Handle.mark = [("Radius", 0, arc.center),
          ("OnArc", 1, arc.center.scale 2 - piece.curve.last.position)]) := by
  -- At the site of the statement both its piece and its handles are at hand.
  rcases exists_site_of_statementAt? p a s hs with ⟨site, argument, rfl, rfl⟩
  rw [site.pieceAt?_fill s argument hdraws, site.handlesAt_fill s argument]
  rcases s.exists_piece? site.cursor hdraws with ⟨piece, hpiece⟩
  refine ⟨piece, hpiece, ?_, ?_⟩
  · exact s.marks_handles site.cursor _ piece site.headed_cursor hpiece
  · rintro radius angle rfl hradius
    cases hpiece
    exact ⟨_, rfl, Statement.marks_handles_of_neg radius angle _ _ site.headed_cursor hradius⟩

/-- A turn to the left, behind a line. -/
theorem handlesAt_marks_turn :
    let p : Program ℝ := ⟨[⟨.uniform, 1, [.line ⟨3, 4⟩, .arcContinue 2 1]⟩]⟩
    p.statementAt? ⟨0, 1, 1⟩ = some (.arcContinue 2 1) ∧
      ∃ piece, p.pieceAt? ⟨0, 1, 1⟩ = some piece ∧
        (p.handlesAt ⟨0, 1, 1⟩).map Handle.mark = (Statement.arcContinue 2 1).marks piece := by
  intro p
  have hs : p.statementAt? ⟨0, 1, 1⟩ = some (.arcContinue 2 1) := rfl
  rcases handlesAt_marks p ⟨0, 1, 1⟩ (.arcContinue 2 1) hs rfl with ⟨piece, hpiece, hmarks, -⟩
  refine ⟨hs, piece, hpiece, hmarks ?_⟩
  intro radius angle hsame
  cases hsame
  norm_num

/-- A negative radius: the last handle is not where the turn ends. -/
theorem handlesAt_ne_marks :
    let p : Program ℝ := ⟨[⟨.uniform, 1, [.arcContinue (-2) 1]⟩]⟩
    ∃ piece, p.pieceAt? ⟨0, 0, 1⟩ = some piece ∧
      (p.handlesAt ⟨0, 0, 1⟩).map Handle.mark ≠ (Statement.arcContinue (-2) 1).marks piece := by
  intro p
  let site : Site ℝ := ⟨[], .uniform, 1, [], [], []⟩
  have hp : p = site.fill (.arcContinue (-2) 1) := rfl
  -- The program is a site with nothing around it.
  refine ⟨_, site.pieceAt?_fill (.arcContinue (-2) 1) 1 rfl, ?_⟩
  have hhandles : p.handlesAt ⟨0, 0, 1⟩
      = (Statement.arcContinue (-2) 1).handles site.cursor (site.address 0) := by
    rw [hp]
    exact site.handlesAt_fill (.arcContinue (-2) 1) 1
  rw [hhandles]
  exact Statement.marks_handles_ne (-2) 1 site.cursor _ site.headed_cursor (by norm_num)

end PlanarMotion
