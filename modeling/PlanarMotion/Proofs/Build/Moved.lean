import PlanarMotion.Proofs.Build.Pieces
import PlanarMotion.Proofs.Path.Moved

/-!
# Drawing Under Rigid Motions

If the points of all statements are moved, and with them the cursor in front, then all that is drawn
is moved. The distances and angles in statements stay as they are, since the continuing forms take
their points from the cursor. So two builders run side by side, and what relates them is that the
cursor and the pieces of the one are those of the other after the motion. One statement keeps this,
and a run of statements is an induction on its length.

A turn around the cursor itself is excluded. It has no radius, so its first angle is not that of a
vector, and after the motion it is the same angle as before. The turn would leave the cursor in a
direction that is not turned along.

## Main definitions

* `Statement.moved`: A statement after a rigid motion.
* `PathBuilder.Round`: All arcs that were drawn have a radius.
* `PathBuilder.IsMoved`: A builder is another one after a rigid motion.

## Theorems

* `Pose.ahead_moved`, `arcCenter_moved`, `Pose.advance_moved`: What statements take from the cursor.
* `PathBuilder.IsMoved.draw`: One statement keeps builders related.
* `PathBuilder.IsMoved.drawAll`: So do several.
* `PathBuilder.build_moved`: The path of moved statements is the moved path.
-/

namespace PlanarMotion

variable (r : RigidMotion)

/-- A statement after a rigid motion: its points are moved, and its distances and angles stay. -/
noncomputable def Statement.moved : Statement ℝ → Statement ℝ
  | .start point => .start (r.point point)
  | .line stop => .line (r.point stop)
  | .lineContinue length => .lineContinue length
  | .arc center angle => .arc (r.point center) angle
  | .arcContinue radius angle => .arcContinue radius angle
  | .bezier c1 c2 stop segments => .bezier (r.point c1) (r.point c2) (r.point stop) segments
  | .bezierContinue c1Offset c2 stop segments =>
    .bezierContinue c1Offset (r.point c2) (r.point stop) segments

section Cursor

variable (cursor : Pose ℝ)

theorem Pose.ahead_moved (distance : ℝ) :
    (r.pose cursor).ahead distance = r.point (cursor.ahead distance) := by
  rw [ahead, ahead, r.point_add, r.direction_scale]
  rfl

/-- The side of a turn is told from its angle alone. -/
theorem arcCenter_moved (radius angle : ℝ) :
    arcCenter (r.pose cursor) radius angle = r.point (arcCenter cursor radius angle) := by
  unfold arcCenter
  simp only [r.point_add, r.direction_scale, RigidMotion.pose, ← r.direction_perpendicular]
  split
  -- To the right the normal is the opposite one.
  · rw [← r.direction_neg]
  · rfl

/-- A moved cursor keeps its direction where the other one does, since directions keep their
    lengths. -/
theorem Pose.advance_moved (position direction : Vec ℝ) :
    (r.pose cursor).advance (r.point position) (r.direction direction)
      = r.pose (cursor.advance position direction) := by
  unfold advance
  rw [r.length_direction]
  split
  · rfl
  · rfl

/-- A turn that has a radius starts at an angle that is turned along. -/
theorem arcAround_moved (center : Vec ℝ) (angle : ℝ)
    (h : (arcAround cursor center angle).radius ≠ 0) :
    (arcAround cursor center angle).IsMoved r
      (arcAround (r.pose cursor) (r.point center) angle) := by
  have hoffset : (r.pose cursor).position - r.point center = r.direction (cursor.position - center) :=
    r.point_sub cursor.position center
  -- Without a radius there is no angle to be turned, only the one of no way at all.
  have hpos : 0 < (cursor.position - center).length :=
    lt_of_le_of_ne (Vec.length_nonneg _) (Ne.symm h)
  rcases r.exists_angle_direction _ hpos with ⟨turns, hturns⟩
  refine ⟨rfl, ?_, turns, ?_, ?_⟩
  · simp only [arcAround, hoffset, r.length_direction]
  · simp only [arcAround, hoffset, hturns]
    ring
  · simp only [arcAround, hoffset, hturns]
    ring

end Cursor

namespace PathBuilder

/-- All arcs that were drawn have a radius. -/
def Round (b : PathBuilder ℝ) : Prop :=
  ∀ a, Path.arc a ∈ b.pieces → a.radius ≠ 0

/-- What was drawn first is still there. -/
theorem Round.of_drawAll (b : PathBuilder ℝ) (ss : List (Statement ℝ)) (h : (b.drawAll ss).Round) :
    b.Round := by
  rcases b.pieces_drawAll ss with ⟨added, hpieces, -⟩
  intro a ha
  refine h a ?_
  rw [hpieces]
  exact List.mem_append_left _ ha

/-- A builder is another one after a rigid motion. -/
structure IsMoved (b b' : PathBuilder ℝ) : Prop where
  /-- The cursor is moved. -/
  cursor : b'.cursor = r.pose b.cursor
  /-- The pieces are moved. -/
  pieces : b'.pieces.map Path.curve = (b.pieces.map Path.curve).map r.curve

namespace IsMoved

variable {r} {b b' : PathBuilder ℝ} (h : b.IsMoved r b')

include h

/-- One more piece that is moved. -/
theorem push (piece piece' : Path ℝ) (position direction : Vec ℝ)
    (hpiece : piece'.curve = r.curve piece.curve) :
    (b.push piece position direction).IsMoved r
      (b'.push piece' (r.point position) (r.direction direction)) := by
  constructor
  · simp only [PathBuilder.push, h.cursor]
    exact b.cursor.advance_moved r position direction
  · simp only [PathBuilder.push, List.map_append, h.pieces, List.map_singleton, hpiece]

/-- One more line. -/
theorem line (stop : Vec ℝ) : (b.line stop).IsMoved r (b'.line (r.point stop)) := by
  have hsegment : (⟨b'.cursor.position, r.point stop⟩ : LineSegment ℝ)
      = r.line ⟨b.cursor.position, stop⟩ := by
    rw [h.cursor]
    rfl
  -- The direction of the moved line is normalized behind the motion, which changes nothing.
  have hdirection : (r.line ⟨b.cursor.position, stop⟩).direction
      = r.direction (LineSegment.mk b.cursor.position stop).direction := by
    rw [LineSegment.direction, LineSegment.direction, ← r.direction_normalized, ← r.point_sub]
    rfl
  have hmoved := h.push (.line ⟨b.cursor.position, stop⟩) (.line (r.line ⟨b.cursor.position, stop⟩))
    stop (LineSegment.mk b.cursor.position stop).direction
    (by rw [Path.curve, Path.curve, LineSegment.curve_moved])
  rw [← hdirection, ← hsegment] at hmoved
  exact hmoved

/-- One more arc. The cursor behind it is told from its last angle. -/
theorem turn (a a' : Arc ℝ) (center : Vec ℝ) (angle : ℝ) (harc : a.IsMoved r a') :
    (b.push (.arc a) (center + Vec.ofAngle a.endAngle a.radius)
        (Vec.ofAngle (headingAfter a angle) 1)).IsMoved r
      (b'.push (.arc a') (r.point center + Vec.ofAngle a'.endAngle a'.radius)
        (Vec.ofAngle (headingAfter a' angle) 1)) := by
  have hposition : r.point center + Vec.ofAngle a'.endAngle a'.radius
      = r.point (center + Vec.ofAngle a.endAngle a.radius) := by
    have hstop := harc.ofAngle_end 0 a.radius
    rw [add_zero, add_zero] at hstop
    rw [harc.radius, hstop, r.point_add]
  have hdirection : Vec.ofAngle (headingAfter a' angle) 1
      = r.direction (Vec.ofAngle (headingAfter a angle) 1) := harc.ofAngle_end _ 1
  rw [hposition, hdirection]
  exact h.push _ _ _ _ (by rw [Path.curve, Path.curve, harc.curve_moved])

/-- One more turn around a center, if it has a radius. -/
theorem arc (center : Vec ℝ) (angle : ℝ)
    (hradius : (arcAround b.cursor center angle).radius ≠ 0) :
    (b.arc center angle).IsMoved r (b'.arc (r.point center) angle) := by
  have harc : (arcAround b.cursor center angle).IsMoved r
      (arcAround b'.cursor (r.point center) angle) := by
    have hmoved := arcAround_moved r b.cursor center angle hradius
    rw [← h.cursor] at hmoved
    exact hmoved
  exact h.turn _ _ center angle harc

/-- One more curve. -/
theorem bezier (c1 c2 stop : Vec ℝ) (segments : Int) :
    (b.bezier c1 c2 stop segments).IsMoved r
      (b'.bezier (r.point c1) (r.point c2) (r.point stop) segments) := by
  let curve : Bezier ℝ := ⟨[b.cursor.position, c1, c2, stop]⟩
  have hcurve : (⟨[b'.cursor.position, r.point c1, r.point c2, r.point stop]⟩ : Bezier ℝ)
      = r.bezier curve := by
    rw [h.cursor]
    rfl
  have hmoved := h.push (.polyline (Polyline.ofBezier curve segments))
    (.polyline (Polyline.ofBezier (r.bezier curve) segments)) stop
    (Polyline.ofBezier curve segments).endDirection
    (by rw [Path.curve, Path.curve, Polyline.curve_moved r curve (List.cons_ne_nil _ _)])
  rw [← Polyline.endDirection_moved, ← hcurve] at hmoved
  exact hmoved

/-- One statement keeps builders related. The continuing forms are the others at a point that is
    moved with the cursor. -/
theorem draw (s : Statement ℝ) (hround : (b.draw s).Round) :
    (b.draw s).IsMoved r (b'.draw (s.moved r)) := by
  -- The piece of the statement is among those that are known to be round.
  have harcs : ∀ a, s.piece? b.cursor = some (.arc a) → a.radius ≠ 0 := by
    intro a ha
    refine hround a ?_
    rw [pieces_draw, ha]
    exact List.mem_append_right _ List.mem_cons_self
  cases s with
  | start point =>
      refine ⟨?_, h.pieces⟩
      simp only [PathBuilder.draw, Statement.moved, PathBuilder.start, h.cursor]
      rfl
  | line stop => exact h.line stop
  | lineContinue length =>
      have hmoved := h.line (b.cursor.ahead length)
      rw [← b.cursor.ahead_moved r length, ← h.cursor] at hmoved
      exact hmoved
  | arc center angle => exact h.arc center angle (harcs _ rfl)
  | arcContinue radius angle =>
      have hmoved := h.arc (arcCenter b.cursor radius angle) angle (harcs _ rfl)
      rw [← arcCenter_moved r b.cursor radius angle, ← h.cursor] at hmoved
      exact hmoved
  | bezier c1 c2 stop segments => exact h.bezier c1 c2 stop segments
  | bezierContinue c1Offset c2 stop segments =>
      have hmoved := h.bezier (b.cursor.ahead c1Offset) c2 stop segments
      rw [← b.cursor.ahead_moved r c1Offset, ← h.cursor] at hmoved
      exact hmoved

omit h in
/-- Statements keep builders related, by induction; the round pieces of all of them include those of
    the first. -/
theorem drawAll (b b' : PathBuilder ℝ) (h : b.IsMoved r b') (ss : List (Statement ℝ))
    (hround : (b.drawAll ss).Round) :
    (b.drawAll ss).IsMoved r (b'.drawAll (ss.map (Statement.moved r))) := by
  induction ss generalizing b b' with
  | nil => exact h
  | cons s ss ih =>
      have hfirst : (b.draw s).Round := Round.of_drawAll (b.draw s) ss hround
      exact ih (b.draw s) (b'.draw (s.moved r)) (h.draw s hfirst) hround

/-- The path of a moved builder is the moved path, also if nothing was drawn. -/
theorem curve_build : b'.build.curve = r.curve b.build.curve := by
  have hchildren : Path.curves b'.pieces = (Path.curves b.pieces).map r.curve := by
    rw [Path.curves_eq_map, Path.curves_eq_map, h.pieces]
  rw [build, build, Path.curve, Path.curve, hchildren, h.cursor, Chain.curve_moved]

/-- Moved pieces have the lengths they had. -/
theorem lengths : b'.pieces.map Path.length = b.pieces.map Path.length := by
  have hlengths : ∀ pieces : List (Path ℝ),
      pieces.map Path.length = (pieces.map Path.curve).map (·.length) := by
    intro pieces
    rw [List.map_map]
    rfl
  rw [hlengths, hlengths, h.pieces, List.map_map]
  rfl

end IsMoved

/-- Rigid motions carry through the whole path. If the points of all statements are moved and drawing
    starts at the moved cursor, then there are as many pieces of the same lengths, drawing ends at
    the moved cursor, and the path has the moved poses after every distance, on the path or beyond
    its ends. All arcs that are drawn must have a radius. -/
theorem build_moved (cursor : Pose ℝ) (statements : List (Statement ℝ))
    (hround : ((ofCursor cursor).drawAll statements).Round) :
    let drawn := (ofCursor cursor).drawAll statements
    let moved := (ofCursor (r.pose cursor)).drawAll (statements.map (Statement.moved r))
    moved.pieces.length = drawn.pieces.length ∧
      moved.pieces.map Path.length = drawn.pieces.map Path.length ∧
      moved.cursor = r.pose drawn.cursor ∧
      moved.build.length = drawn.build.length ∧
      ∀ t, moved.build.pose t = r.pose (drawn.build.pose t) := by
  intro drawn moved
  -- Neither builder has drawn anything yet.
  have hstart : (ofCursor cursor).IsMoved r (ofCursor (r.pose cursor)) := ⟨rfl, rfl⟩
  have hmoved : drawn.IsMoved r moved := IsMoved.drawAll _ _ hstart statements hround
  have hcount := congrArg List.length hmoved.lengths
  rw [List.length_map, List.length_map] at hcount
  have hlength : moved.build.length = drawn.build.length := by
    rw [Path.length, hmoved.curve_build]
    rfl
  refine ⟨hcount, hmoved.lengths, hmoved.cursor, hlength, ?_⟩
  intro t
  rw [Path.pose, hmoved.curve_build]
  rfl

/-- A line and a turn, upside down and somewhere else. -/
theorem build_moved_lineAndTurn :
    let r : RigidMotion := ⟨Real.pi, ⟨3, -2⟩⟩
    let statements : List (Statement ℝ) := [.line ⟨1, 0⟩, .arc ⟨1, 1⟩ 7]
    let drawn := (ofCursor Pose.origin).drawAll statements
    let moved := (ofCursor (r.pose Pose.origin)).drawAll (statements.map (Statement.moved r))
    drawn.Round ∧ moved.pieces.length = drawn.pieces.length ∧
      moved.pieces.map Path.length = drawn.pieces.map Path.length ∧
      moved.cursor = r.pose drawn.cursor ∧ moved.build.pose 4 = r.pose (drawn.build.pose 4) := by
  intro r statements drawn moved
  have hround : drawn.Round := by
    intro a ha
    have hpieces : drawn.pieces = [.line ⟨Vec.zero, ⟨1, 0⟩⟩,
      .arc (arcAround ⟨⟨1, 0⟩, (LineSegment.mk (Vec.zero : Vec ℝ) ⟨1, 0⟩).direction⟩ ⟨1, 1⟩ 7)] := rfl
    rw [hpieces] at ha
    rcases List.mem_pair.mp ha with hline | harc
    · cases hline
    -- The turn has the radius one.
    · have hunit : ((1 : ℝ) - 1) ^ 2 + (0 - 1) ^ 2 = 1 := by norm_num
      have hradius : a.radius = 1 := by
        rw [Path.arc.inj harc]
        exact (Vec.length_eq_one_iff _).mpr hunit
      rw [hradius]
      exact one_ne_zero
  rcases build_moved r Pose.origin statements hround with ⟨hcount, hlengths, hcursor, -, hposes⟩
  exact ⟨hround, hcount, hlengths, hcursor, hposes 4⟩

end PathBuilder

end PlanarMotion
