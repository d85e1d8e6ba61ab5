import PlanarMotion.Proofs.Build.Pieces
import PlanarMotion.Proofs.Path.Ends
import Mathlib.Data.List.TakeWhile

/-!
# Pieces Meet

A builder keeps a cursor apart from the pieces that it has drawn, and computes it from the
statement and not from the piece. Over the real numbers both agree: the piece that a statement
adds leads from the cursor that the statement finds to the one that it leaves. So the pieces of
a path are linked as long as the cursor is not moved without drawing, and the path leads from
where they start to the cursor, also if there are no pieces or if they have no length.

## Main definitions

* `Statement.StartsFirst`: The cursor is moved without drawing only before anything is drawn.

## Theorems

* `Statement.leads_piece`: A piece leads from cursor to cursor.
* `PathBuilder.linked_drawAll`: The pieces of statements that draw are linked.
* `PathBuilder.leads_build`, `PathBuilder.steady_build`: The path of linked pieces.
* `PathBuilder.exists_linked_drawAll`: Moving the cursor in front does no harm.
* `PathBuilder.length_sub_le_build`: Distances along a path are true ones.
-/

namespace PlanarMotion

/-- The cursor is moved without drawing only before anything is drawn. -/
def Statement.StartsFirst {α : Type} (ss : List (Statement α)) : Prop :=
  ∀ s ∈ ss.dropWhile (fun s => !s.draws), s.draws = true

instance {α : Type} (ss : List (Statement α)) : Decidable (Statement.StartsFirst ss) :=
  inferInstanceAs (Decidable (∀ s ∈ ss.dropWhile (fun s => !s.draws), s.draws = true))

/-- A turn starts at the cursor. -/
theorem leads_arcAround (cursor : Pose ℝ) (center : Vec ℝ) (angle : ℝ) :
    (arcAround cursor center angle).curve.track.Leads cursor.position
      (center + Vec.ofAngle (arcAround cursor center angle).endAngle
        (arcAround cursor center angle).radius) := by
  -- The angle of the way to the cursor leads back to the cursor, even if there is no way.
  have hstart : center + Vec.ofAngle (cursor.position - center).angle
      (cursor.position - center).length = cursor.position := by
    rw [Vec.ofAngle_angle]
    ext
    · simp
    · simp
  have hleads := (arcAround cursor center angle).leads (Vec.length_nonneg _)
  unfold arcAround at hleads ⊢
  simp only [hstart] at hleads
  exact hleads

/-- The piece of a statement leads from the cursor that it finds to the one that it leaves. -/
theorem Statement.leads_piece (s : Statement ℝ) (b : PathBuilder ℝ) (piece : Path ℝ)
    (h : s.piece? b.cursor = some piece) :
    piece.curve.track.Leads b.cursor.position (b.draw s).cursor.position := by
  cases s with
  | start point => cases h
  | line stop =>
      rw [← Option.some.inj h]
      exact LineSegment.leads _
  | lineContinue length =>
      rw [← Option.some.inj h]
      exact LineSegment.leads _
  | arc center angle =>
      rw [← Option.some.inj h]
      exact leads_arcAround b.cursor center angle
  | arcContinue radius angle =>
      rw [← Option.some.inj h]
      exact leads_arcAround b.cursor _ angle
  | bezier c1 c2 stop segments =>
      rw [← Option.some.inj h]
      exact Polyline.leads _ _ _ _ _
  | bezierContinue c1Offset c2 stop segments =>
      rw [← Option.some.inj h]
      exact Polyline.leads _ _ _ _ _

/-- Along the piece of a statement the place moves no faster than the distance. -/
theorem Statement.steady_piece (s : Statement ℝ) (cursor : Pose ℝ) (piece : Path ℝ)
    (h : s.piece? cursor = some piece) : piece.curve.track.Steady := by
  cases s with
  | start point => cases h
  | line stop | lineContinue length =>
      rw [← Option.some.inj h]
      exact LineSegment.steady _
  | arc center angle | arcContinue radius angle =>
      rw [← Option.some.inj h]
      exact Arc.steady _ (Vec.length_nonneg _)
  | bezier c1 c2 stop segments | bezierContinue c1Offset c2 stop segments =>
      rw [← Option.some.inj h]
      exact Polyline.steady _ _ _ _ _

namespace PathBuilder

/-- The tracks of the pieces drawn so far. -/
noncomputable def tracks (b : PathBuilder ℝ) : List Track :=
  b.pieces.map fun piece => piece.curve.track

theorem tracks_draw (b : PathBuilder ℝ) (s : Statement ℝ) : (b.draw s).tracks
    = b.tracks ++ (s.piece? b.cursor).toList.map fun piece => piece.curve.track := by
  rw [tracks, pieces_draw, List.map_append, tracks]

/-- The pieces of statements that draw are linked, and behind linked ones they still are. -/
theorem linked_drawAll (b : PathBuilder ℝ) (ss : List (Statement ℝ)) (a : Vec ℝ)
    (hdraws : ∀ s ∈ ss, s.draws = true) (h : Linked a b.tracks b.cursor.position) :
    Linked a (b.drawAll ss).tracks (b.drawAll ss).cursor.position := by
  induction ss generalizing b with
  | nil => exact h
  | cons s ss ih =>
      rw [List.forall_mem_cons] at hdraws
      -- The piece starts where the last one has ended, so the chain goes on.
      rcases s.exists_piece? b.cursor hdraws.1 with ⟨piece, hpiece⟩
      refine ih (b.draw s) hdraws.2 ?_
      rw [tracks_draw, hpiece]
      exact h.append (.cons (s.leads_piece b piece hpiece) (.nil _))

theorem steady_drawAll (cursor : Pose ℝ) (ss : List (Statement ℝ)) :
    ∀ f ∈ ((ofCursor cursor).drawAll ss).tracks, f.Steady :=
  List.forall_mem_map.mpr (forall_pieces_drawAll Statement.steady_piece _ ss
    (List.forall_mem_nil _))

/-- Moving the cursor adds no piece. -/
theorem tracks_drawAll_of_not_draws (b : PathBuilder ℝ) (ss : List (Statement ℝ))
    (h : ∀ s ∈ ss, s.draws = false) : (b.drawAll ss).tracks = b.tracks := by
  induction ss generalizing b with
  | nil => rfl
  | cons s ss ih =>
      rw [List.forall_mem_cons] at h
      have hfirst : b.drawAll (s :: ss) = (b.draw s).drawAll ss := rfl
      rw [hfirst, ih (b.draw s) h.2]
      cases s with
      | start point => rfl
      | _ => exact absurd h.1 (by simp [Statement.draws])

/-- If the cursor is only moved in front, then the pieces are linked from where it is left. -/
theorem exists_linked_drawAll (cursor : Pose ℝ) (ss : List (Statement ℝ))
    (h : Statement.StartsFirst ss) : ∃ a, Linked a ((ofCursor cursor).drawAll ss).tracks
      ((ofCursor cursor).drawAll ss).cursor.position := by
  -- Nothing has been drawn where the first statement draws, and from there on all of them do.
  let starts := ss.takeWhile fun s => !s.draws
  have hstarts : ∀ s ∈ starts, s.draws = false := by
    intro s hs
    simpa using List.mem_takeWhile_imp hs
  have hempty : ((ofCursor cursor).drawAll starts).tracks = [] :=
    tracks_drawAll_of_not_draws _ starts hstarts
  refine ⟨((ofCursor cursor).drawAll starts).cursor.position, ?_⟩
  rw [← List.takeWhile_append_dropWhile (p := fun s => !s.draws) (l := ss), drawAll_append]
  refine linked_drawAll _ _ _ h ?_
  -- There the row of pieces is empty, so it is linked.
  rw [hempty]
  exact .nil _

theorem chain_build (b : PathBuilder ℝ) :
    (Chain.mk (Path.curves b.pieces) b.cursor).children.map Curve.track = b.tracks := by
  simp only [Path.curves_eq_map, List.map_map, tracks]
  rfl

/-- The path of linked pieces leads to the cursor. -/
theorem leads_build (b : PathBuilder ℝ) (a : Vec ℝ) (h : Linked a b.tracks b.cursor.position) :
    b.build.curve.track.Leads a b.cursor.position := by
  rw [← b.chain_build] at h
  exact Chain.leads _ h fun _ => rfl

theorem steady_build (b : PathBuilder ℝ) (a : Vec ℝ) (h : Linked a b.tracks b.cursor.position)
    (hsteady : ∀ f ∈ b.tracks, f.Steady) : b.build.curve.track.Steady := by
  rw [← b.chain_build] at h hsteady
  exact Chain.steady _ h (fun _ => rfl) (List.forall_mem_map.mp hsteady)

/-- Between any two distances along a path the place moves no further than the distance does, and
    not at all beyond the ends. -/
theorem length_sub_le_build (cursor : Pose ℝ) (ss : List (Statement ℝ))
    (h : Statement.StartsFirst ss) (s t : ℝ) :
    let path := ((ofCursor cursor).drawAll ss).build
    let within := fun distance => Scalar.clamp distance 0 path.length
    ((path.pose t).position - (path.pose s).position).length ≤ |within t - within s| ∧
      |within t - within s| ≤ |t - s| := by
  rcases exists_linked_drawAll cursor ss h with ⟨a, hlinked⟩
  have hleads := leads_build _ a hlinked
  have hsteady := steady_build _ a hlinked (steady_drawAll cursor ss)
  exact ⟨hsteady.length_sub_le_clamp hleads s t, Scalar.abs_clamp_sub_le s t 0 _⟩

/-- A line and a turn behind a point that the cursor is moved to. -/
theorem length_sub_le_build_lineAndTurn :
    let path := ((ofCursor Pose.origin).drawAll
      [.start ⟨2, 0⟩, .line ⟨1, 0⟩, .arc ⟨1, 1⟩ 1]).build
    ((path.pose 2).position - (path.pose 1).position).length ≤ |(2 : ℝ) - 1| :=
  have hbounds := length_sub_le_build Pose.origin [.start ⟨2, 0⟩, .line ⟨1, 0⟩, .arc ⟨1, 1⟩ 1]
    (by decide) 1 2
  hbounds.1.trans hbounds.2

end PathBuilder

end PlanarMotion
