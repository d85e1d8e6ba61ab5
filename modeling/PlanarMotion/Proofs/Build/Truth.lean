import PlanarMotion.Proofs.Build.Joints
import PlanarMotion.Proofs.Plane.Heading

/-!
# The Cursor Tells the Truth

What the cursor says of a piece and what the piece says of itself come from different formulas. The
builder takes the end that it was given, or adds up angles; the piece is asked at its length, where
it clamps, divides and searches. The direction behind a turn is that of an angle a quarter turn
ahead of the last one, while the arc looks at its two angles to see which way it goes. Over the
real numbers the answers are the same. So neighbouring pieces meet, and whatever continues straight
on continues the piece in front of it.

Where a piece has no direction to give, the cursor keeps its own. That is a line without length, and
a Bezier curve whose derivative vanishes at its end; what the last chord of such a curve does is no
matter.

Each statement is one case. That a path is the pieces of its statements in order is known already,
so there is no further induction.

## Main definitions

* `Path.Faces`: The direction of a cursor behind a piece.
* `Path.Joins`: A piece goes from one cursor to another.

## Theorems

* `Statement.joins_piece`: The piece of a statement joins the cursors around it.
* `PathBuilder.joins_drawAll`: So do all pieces of a path, and neighbours meet.
-/

namespace PlanarMotion

/-- The direction of a cursor behind a piece, if it was another one before: that in which the piece
    ends, or the one before if the piece has none. Of an arc without length nothing is said. -/
def Path.Faces (piece : Path ℝ) (before after : Vec ℝ) : Prop :=
  match piece with
  | .line s => (0 < s.length → after = s.curve.last.direction) ∧ (s.length = 0 → after = before)
  | .arc a => 0 < a.length → after = a.curve.last.direction
  | .polyline p =>
    (p.bezier.derivative 1 ≠ Vec.zero → after = (p.bezier.derivative 1).normalized) ∧
      (p.bezier.derivative 1 = Vec.zero → after = before)
  | .chain _ _ => False

/-- A piece goes from one cursor to another. -/
structure Path.Joins (piece : Path ℝ) (before after : Pose ℝ) : Prop where
  /-- It starts where the cursor was. -/
  first : piece.curve.first.position = before.position
  /-- It ends where the cursor is. -/
  last : piece.curve.last.position = after.position
  /-- The cursor has its direction, or has kept its own. -/
  faces : piece.Faces before.direction after.direction

section Faces

variable (cursor : Pose ℝ)

/-- Behind a line the cursor has the line's direction, or its own if the line has none. -/
theorem faces_line (s : LineSegment ℝ) (stop : Vec ℝ) :
    (Path.line s).Faces cursor.direction (cursor.advance stop s.direction).direction := by
  constructor
  · intro hlength
    -- A line of some length has a unit direction, which the cursor takes over.
    have hdirection : s.direction.length = 1 := Vec.length_normalized_of_ne_zero _ hlength.ne'
    rw [cursor.direction_advance_of_ne_zero _ _ (hdirection.trans_ne one_ne_zero)]
    rfl
  · intro hlength
    exact cursor.direction_advance_of_zero _ _ (Vec.length_normalized_of_zero _ hlength)

/-- A turn by a positive angle goes to the left, as its arc does. -/
theorem faces_arc (center stop : Vec ℝ) (angle : ℝ) :
    (Path.arc (arcAround cursor center angle)).Faces cursor.direction
      (cursor.advance stop (Vec.ofAngle
        (PathBuilder.headingAfter (arcAround cursor center angle) angle) 1)).direction := by
  intro hlength
  have hside : (arcAround cursor center angle).startAngle
      < (arcAround cursor center angle).endAngle ↔ 0 < angle :=
    lt_add_iff_pos_right _
  -- The heading behind a turn is a unit vector in any case.
  have hdirection := Vec.length_ofAngle
    (PathBuilder.headingAfter (arcAround cursor center angle) angle)
  rw [cursor.direction_advance_of_ne_zero _ _ (hdirection.trans_ne one_ne_zero),
    Arc.direction_last _ hlength, PathBuilder.headingAfter, if_congr hside rfl rfl]

/-- Behind a curve it has the direction of the derivative at the end, or its own. -/
theorem faces_polyline (p : Polyline ℝ) (stop : Vec ℝ) :
    (Path.polyline p).Faces cursor.direction (cursor.advance stop p.endDirection).direction := by
  constructor
  · -- The cursor is given the normalized derivative itself, not the direction of a chord.
    intro hne
    have hlength := mt (Vec.length_eq_zero_iff_eq _).mp hne
    have hdirection : p.endDirection.length = 1 := Vec.length_normalized_of_ne_zero _ hlength
    rw [cursor.direction_advance_of_ne_zero _ _ (hdirection.trans_ne one_ne_zero)]
    rfl
  · intro hzero
    have hlength := (Vec.length_eq_zero_iff_eq _).mpr hzero
    exact cursor.direction_advance_of_zero _ _ (Vec.length_normalized_of_zero _ hlength)

end Faces

/-- Behind any piece the cursor faces as the piece tells. -/
theorem Statement.faces_piece (s : Statement ℝ) (b : PathBuilder ℝ) (piece : Path ℝ)
    (h : s.piece? b.cursor = some piece) :
    piece.Faces b.cursor.direction (b.draw s).cursor.direction := by
  cases s with
  | start point => cases h
  | line stop | lineContinue length =>
      rw [← Option.some.inj h]
      exact faces_line b.cursor _ _
  | arc center angle | arcContinue radius angle =>
      rw [← Option.some.inj h]
      exact faces_arc b.cursor _ _ _
  | bezier c1 c2 stop segments | bezierContinue c1Offset c2 stop segments =>
      rw [← Option.some.inj h]
      exact faces_polyline b.cursor _ _

/-- The piece of a statement joins the cursor that it finds and the one that it leaves. -/
theorem Statement.joins_piece (s : Statement ℝ) (b : PathBuilder ℝ) (piece : Path ℝ)
    (h : s.piece? b.cursor = some piece) : piece.Joins b.cursor (b.draw s).cursor := by
  have hleads := s.leads_piece b piece h
  exact ⟨hleads.first 0 (le_refl _), hleads.last _ (le_refl _), s.faces_piece b piece h⟩

namespace PathBuilder

/-- A path has one piece for each statement that draws, which joins the cursors around it. The
    pieces of two statements meet if the one follows the other. -/
theorem joins_drawAll (cursor : Pose ℝ) (ss : List (Statement ℝ)) :
    let pieces := ((ofCursor cursor).drawAll ss).pieces
    pieces.length = ss.countP Statement.draws ∧
    (∀ front s back, ss = front ++ s :: back → s.draws = true →
      ∃ piece, pieces[front.countP Statement.draws]? = some piece ∧
        piece.Joins ((ofCursor cursor).drawAll front).cursor
          ((ofCursor cursor).drawAll (front ++ [s])).cursor) ∧
    (∀ front s t back, ss = front ++ s :: t :: back → s.draws = true → t.draws = true →
      ∃ piece next, pieces[front.countP Statement.draws]? = some piece ∧
        pieces[front.countP Statement.draws + 1]? = some next ∧
        piece.curve.last.position = next.curve.first.position) := by
  have hjoins : ∀ front s back, ss = front ++ s :: back → s.draws = true →
      ∃ piece, ((ofCursor cursor).drawAll ss).pieces[front.countP Statement.draws]? = some piece ∧
        piece.Joins ((ofCursor cursor).drawAll front).cursor
          ((ofCursor cursor).drawAll (front ++ [s])).cursor := by
    rintro front s back rfl hdraws
    -- The pieces in front are as many as the statements in front that draw.
    rcases (ofCursor cursor).exists_piece_drawAll front back s hdraws
      with ⟨before, piece, after, hpieces, hcount, hpiece⟩
    have hempty : (ofCursor cursor).pieces = [] := rfl
    refine ⟨piece, ?_, ?_⟩
    · rw [hpieces, hempty, List.nil_append, ← hcount, getElem?_split]
    · rw [drawAll_append]
      exact s.joins_piece _ piece hpiece
  refine ⟨?_, hjoins, ?_⟩
  · rcases (ofCursor cursor).pieces_drawAll ss with ⟨added, hpieces, hcount⟩
    have hempty : (ofCursor cursor).pieces = [] := rfl
    rw [hpieces, hempty, List.nil_append, hcount]
  · -- The second statement finds the cursor that the first one leaves, and both pieces are there.
    intro front s t back hss hs ht
    rcases hjoins front s (t :: back) hss hs with ⟨piece, hpiece, hjoin⟩
    rcases hjoins (front ++ [s]) t back (by rw [hss, List.append_assoc]; rfl) ht
      with ⟨next, hnext, hjoinNext⟩
    rw [List.countP_append, List.countP_singleton, if_pos hs] at hnext
    exact ⟨piece, next, hpiece, hnext, hjoin.last.trans hjoinNext.first.symm⟩

/-- A line and a turn behind it. -/
theorem joins_drawAll_lineAndTurn :
    let ss : List (Statement ℝ) := [.line ⟨1, 0⟩, .arc ⟨1, 1⟩ 1]
    let pieces := ((ofCursor Pose.origin).drawAll ss).pieces
    pieces.length = 2 ∧
    (∃ piece, pieces[1]? = some piece ∧ piece.Joins
      ((ofCursor Pose.origin).drawAll [.line ⟨1, 0⟩]).cursor
      ((ofCursor Pose.origin).drawAll ss).cursor) ∧
    ∃ piece next, pieces[0]? = some piece ∧ pieces[1]? = some next ∧
      piece.curve.last.position = next.curve.first.position := by
  intro ss pieces
  rcases joins_drawAll Pose.origin ss with ⟨hlength, hjoins, hmeet⟩
  exact ⟨hlength, hjoins [.line ⟨1, 0⟩] (.arc ⟨1, 1⟩ 1) [] rfl rfl,
    hmeet [] (.line ⟨1, 0⟩) (.arc ⟨1, 1⟩ 1) [] rfl rfl rfl⟩

end PathBuilder

end PlanarMotion
