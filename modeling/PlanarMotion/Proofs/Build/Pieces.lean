import PlanarMotion.Proofs.Handle.Site

/-!
# The Pieces of a Program

Compiling a program keeps no record of which piece of a path came from which statement, and
none is needed: a statement adds one piece behind those that are there, except that moving the
cursor adds none. So a piece is found by counting the statements in front of its own that
draw, and `Program.pieceAt?` finds it in the compiled mover in this way.

What the piece is depends on the statement and on the cursor that it finds, and on nothing
else. `Statement.piece?` says so in one table, in which the continuing forms are the others
at points that the cursor gives.

## Main definitions

* `Statement.draws`: A statement adds a piece.
* `Statement.piece?`: The piece that a statement adds behind a cursor.
* `phaseLegs`: The legs of phases.
* `Program.pieceAt?`: The piece of the compiled mover that a statement has become.

## Theorems

* `PathBuilder.pieces_draw`: A statement adds its piece.
* `PathBuilder.forall_pieces_drawAll`: What holds of the piece of any statement holds of all.
* `PathBuilder.pieces_drawAll`: Statements add as many pieces as draw.
* `PathBuilder.exists_piece_drawAll`: A piece is behind those of the statements in front.
* `Program.parts_compile`: A compiled program has the legs of its phases.
* `Site.pieceAt?_fill`: Counting finds the piece of a statement.
-/

namespace PlanarMotion

variable {α : Type} [Scalar α]

/-- A statement adds a piece to the path. Moving the cursor does not. -/
def Statement.draws {α : Type} : Statement α → Bool
  | .start _ => false
  | _ => true

/-- The piece that a statement adds behind a cursor. -/
def Statement.piece? (s : Statement α) (cursor : Pose α) : Option (Path α) :=
  match s with
  | .start _ => none
  | .line stop => some (.line ⟨cursor.position, stop⟩)
  | .lineContinue length => some (.line ⟨cursor.position, cursor.ahead length⟩)
  | .arc center angle => some (.arc (arcAround cursor center angle))
  | .arcContinue radius angle =>
    some (.arc (arcAround cursor (arcCenter cursor radius angle) angle))
  | .bezier c1 c2 stop segments =>
    some (.polyline (Polyline.ofBezier ⟨[cursor.position, c1, c2, stop]⟩ segments))
  | .bezierContinue c1Offset c2 stop segments =>
    some (.polyline
      (Polyline.ofBezier ⟨[cursor.position, cursor.ahead c1Offset, c2, stop]⟩ segments))

theorem Statement.exists_piece? (s : Statement α) (cursor : Pose α) (h : s.draws = true) :
    ∃ piece, s.piece? cursor = some piece := by
  cases s with
  | start point => exact absurd h Bool.false_ne_true
  | _ => exact ⟨_, rfl⟩

namespace PathBuilder

/-- A statement adds its piece behind those that are there. -/
theorem pieces_draw (b : PathBuilder α) (s : Statement α) :
    (b.draw s).pieces = b.pieces ++ (s.piece? b.cursor).toList := by
  cases s with
  | start point => exact (List.append_nil b.pieces).symm
  | line stop => rfl
  | lineContinue length => rfl
  | arc center angle => rfl
  | arcContinue radius angle => rfl
  | bezier c1 c2 stop segments => rfl
  | bezierContinue c1Offset c2 stop segments => rfl

/-- What holds of the piece of any statement holds of all pieces. -/
theorem forall_pieces_drawAll {motive : Path α → Prop}
    (hpiece : ∀ (s : Statement α) (cursor : Pose α) (piece : Path α),
      s.piece? cursor = some piece → motive piece) (b : PathBuilder α) (ss : List (Statement α))
    (hb : ∀ piece ∈ b.pieces, motive piece) :
    ∀ piece ∈ (b.drawAll ss).pieces, motive piece := by
  induction ss generalizing b with
  | nil => exact hb
  | cons s ss ih =>
      refine ih (b.draw s) ?_
      rw [pieces_draw, List.forall_mem_append]
      exact ⟨hb, fun piece hmem => hpiece s b.cursor piece (Option.mem_toList.mp hmem)⟩

/-- Statements add as many pieces as there are among them that draw. -/
theorem pieces_drawAll (b : PathBuilder α) (ss : List (Statement α)) : ∃ added,
    (b.drawAll ss).pieces = b.pieces ++ added ∧ added.length = ss.countP Statement.draws := by
  induction ss generalizing b with
  | nil => exact ⟨[], (List.append_nil b.pieces).symm, rfl⟩
  | cons s rest ih =>
      rcases ih (b.draw s) with ⟨added, hpieces, hlength⟩
      refine ⟨(s.piece? b.cursor).toList ++ added, ?_, ?_⟩
      · have hfirst : b.drawAll (s :: rest) = (b.draw s).drawAll rest := rfl
        rw [hfirst, hpieces, b.pieces_draw s, List.append_assoc]
      · rw [List.length_append, hlength, List.countP_cons]
        -- The first statement counts if it draws, and adds a piece then.
        cases s <;> simp [Statement.piece?, Statement.draws, Nat.add_comm]

/-- The piece of a statement that draws is behind those of the statements in front. -/
theorem exists_piece_drawAll (b : PathBuilder α) (front back : List (Statement α))
    (s : Statement α) (hdraws : s.draws = true) : ∃ before piece after,
      (b.drawAll (front ++ s :: back)).pieces = b.pieces ++ (before ++ piece :: after) ∧
        before.length = front.countP Statement.draws ∧
        s.piece? (b.drawAll front).cursor = some piece := by
  rcases b.pieces_drawAll front with ⟨before, hbefore, hcount⟩
  rcases s.exists_piece? (b.drawAll front).cursor hdraws with ⟨piece, hpiece⟩
  rcases ((b.drawAll front).draw s).pieces_drawAll back with ⟨after, hafter, -⟩
  refine ⟨before, piece, after, ?_, hcount, hpiece⟩
  -- Drawing is done in three steps, and the middle one adds the piece.
  have hsplit : b.drawAll (front ++ s :: back) = ((b.drawAll front).draw s).drawAll back :=
    b.drawAll_append front (s :: back)
  rw [hsplit, hafter, pieces_draw, hbefore, hpiece, Option.toList_some, List.append_assoc,
    List.append_assoc, List.singleton_append]

end PathBuilder

/-- The legs of phases, the first of which starts at a cursor. -/
def phaseLegs : Pose α → List (Phase α) → List (Leg α)
  | _, [] => []
  | cursor, p :: rest =>
    let b := (PathBuilder.ofCursor cursor).drawAll p.statements
    ⟨b.build, p.duration, p.method.easing⟩ :: phaseLegs b.cursor rest

/-- Adding phases to a mover adds their legs, from the cursor that each one finds. -/
theorem foldl_addPhase (b : MoverBuilder α) (ps : List (Phase α)) :
    ps.foldl MoverBuilder.addPhase b
      = ⟨phasesCursor b.cursor ps, b.legs ++ phaseLegs b.cursor ps⟩ := by
  induction ps generalizing b with
  | nil => rw [List.foldl_nil, phaseLegs, List.append_nil, phasesCursor, List.foldl_nil]
  | cons p rest ih =>
      rw [List.foldl_cons, ih, phaseLegs]
      simp only [MoverBuilder.addPhase, MoverBuilder.phase, List.append_assoc,
        List.singleton_append]
      rfl

theorem length_phaseLegs (cursor : Pose α) (ps : List (Phase α)) :
    (phaseLegs cursor ps).length = ps.length := by
  induction ps generalizing cursor with
  | nil => rfl
  | cons p rest ih => rw [phaseLegs, List.length_cons, ih, List.length_cons]

/-- The legs of later phases start at the cursor that the earlier ones leave. -/
theorem phaseLegs_append (cursor : Pose α) (front rest : List (Phase α)) :
    phaseLegs cursor (front ++ rest)
      = phaseLegs cursor front ++ phaseLegs (phasesCursor cursor front) rest := by
  induction front generalizing cursor with
  | nil => rfl
  | cons p front ih =>
      rw [List.cons_append, phaseLegs, phaseLegs, List.cons_append]
      simp only [ih]
      rfl

namespace Program

/-- A compiled program has the legs of its phases, in order. -/
theorem parts_compile (p : Program α) :
    p.compile.parts = (phaseLegs Pose.origin p.phases).map Mover.leg := by
  rw [compile, built, foldl_addPhase, MoverBuilder.build, Mover.parts]
  rfl

/-- The piece of the compiled mover that the statement at an address has become, if it draws:
    there are as many pieces in front of it as statements that draw. -/
def pieceAt? (p : Program α) (a : Address) : Option (Path α) :=
  match elementAt? p.phases a.phase, elementAt? p.compile.parts a.phase with
  | some ph, some (.leg l) =>
    l.path.pieces[(ph.statements.take a.statement.toNat).countP Statement.draws]?
  | _, _ => none

end Program

/-- Counting finds the piece of the statement that was put in. -/
theorem Site.pieceAt?_fill (site : Site α) (s : Statement α) (argument : Int)
    (hdraws : s.draws = true) :
    (site.fill s).pieceAt? (site.address argument) = s.piece? site.cursor := by
  have hphase : elementAt? (site.fill s).phases site.front.length = some (site.phase s) :=
    elementAt?_middle site.front site.back (site.phase s)
  -- The leg of the phase is the one behind those of the phases in front.
  have hleg : elementAt? (site.fill s).compile.parts site.front.length
      = some (.leg ⟨(site.opening.drawAll (site.phase s).statements).build, site.duration,
          site.method.easing⟩) := by
    rw [Program.parts_compile, fill, phaseLegs_append, phaseLegs, List.map_append, List.map_cons]
    have hlength : ((phaseLegs Pose.origin site.front).map Mover.leg).length
        = site.front.length := by
      rw [List.length_map, length_phaseLegs]
    rw [← hlength]
    exact elementAt?_middle _ _ _
  have htake : (site.phase s).statements.take site.before.length = site.before := by
    rw [phase, List.take_left]
  -- Its pieces are those of the statements in front, the one looked for, and others.
  rcases site.opening.exists_piece_drawAll site.before site.after s hdraws
    with ⟨before, piece, after, hdrawn, hcount, hpiece⟩
  have hpieces : (site.opening.drawAll (site.phase s).statements).pieces
      = before ++ piece :: after := hdrawn
  have hcursor : s.piece? site.cursor = some piece := hpiece
  simp only [Program.pieceAt?, address, hphase, hleg, Int.toNat_natCast, htake,
    PathBuilder.build, Path.pieces, hpieces, hcursor, ← hcount]
  rw [List.getElem?_append_right (Nat.le_refl _), Nat.sub_self]
  rfl

end PlanarMotion
