import PlanarMotion.Proofs.Build.Seams
import PlanarMotion.Proofs.Handle.Arguments
import PlanarMotion.Proofs.Handle.Frame
import PlanarMotion.Proofs.Motion.Owners

/-!
# Edits Act Downstream

A statement finds the cursor that the statements in front of it have left, and hands its own cursor
to those behind it. So an edit goes one way. The literal that it writes is seen by its statement and
by whatever comes later, and by nothing that comes earlier: statements in front of the edited one
keep their handles and their pieces.

Time goes the same way. An edit changes no duration, so a sequence looks for a time among the same
marks, and it finds the same phase. If that phase is in front of the edited one, then its leg is the
same as well, and so is the sample, place, heading and speed. How far the edit reaches into its own
phase is another matter: as the length of the path changes, so does the distance that belongs to a
time, even where the path itself does not.

Numbers may be anything here, and so may the handle and the point. Nothing depends on what the edit
computes, nor on whether a program can be drawn without the sine of an infinite angle: where one is
refused, this is about what it would have been.

## Main definitions

* `Program.AgreeBefore`: Two programs are the same in front of an address.

## Theorems

* `Site.statementsBefore_fill_of_inFront`: Statements in front are not told what is put in.
* `Program.pieceAt?_eq`: The piece of a statement depends on those in front of it.
* `Program.durations_compile`: A compiled program takes the durations of its phases.
* `Program.sample_eq_of_part`: A time is sampled in the leg that the search finds.
* `Site.agreeBefore_fill`: Two fillings of a site agree in front of it.
* `agreeBefore_change`: An edit acts downstream.
-/

namespace PlanarMotion

variable {α : Type} [Scalar α]

/-- Two programs are the same in front of an address, in what is made of them as well. -/
structure Program.AgreeBefore (p q : Program α) (a : Address) : Prop where
  /-- The handles of statements in front are the same, in the same order. -/
  handles : (q.handles.filter fun h => decide (h.address.InFront a))
    = p.handles.filter fun h => decide (h.address.InFront a)
  /-- So are the statements, and the pieces that those of them that draw have become. -/
  pieces : ∀ b s, b.InFront a → p.statementAt? b = some s → q.statementAt? b = some s ∧
    (s.draws = true → ∃ piece, p.pieceAt? b = some piece ∧ q.pieceAt? b = some piece)
  /-- Phases end at the same times. -/
  marks : runningSums (Mover.durations q.compile.parts)
    = runningSums (Mover.durations p.compile.parts)
  /-- A time that belongs to a phase in front is sampled alike, or refused alike. -/
  samples : ∀ t, ((locate (Mover.durations p.compile.parts) t).1 : Int) < a.phase →
    q.compile.sample t = p.compile.sample t ∧ q.compile.sample? t = p.compile.sample? t

/-- Legs take the durations of their phases. -/
theorem durations_phaseLegs (cursor : Pose α) (ps : List (Phase α)) :
    Mover.durations ((phaseLegs cursor ps).map .leg) = ps.map (·.duration) := by
  induction ps generalizing cursor with
  | nil => rfl
  | cons p ps ih =>
      rw [phaseLegs, List.map_cons, Mover.durations, List.map_cons, List.map_cons]
      exact congrArg _ (ih _)

namespace Program

/-- The piece of a statement depends on the statement and on those in front of it. -/
theorem pieceAt?_eq (p : Program α) (a : Address) (s : Statement α)
    (hs : p.statementAt? a = some s) (hdraws : s.draws = true) :
    p.pieceAt? a = s.piece? (replay (p.statementsBefore a)).cursor := by
  rcases exists_site_of_statementAt? p a s hs with ⟨site, argument, rfl, rfl⟩
  rw [site.pieceAt?_fill s argument hdraws, site.statementsBefore_fill, ← site.cursor_eq]

/-- So it is the same in programs that are the same up to the statement. -/
theorem exists_pieceAt? (p q : Program α) (a : Address) (s : Statement α)
    (hp : p.statementAt? a = some s) (hq : q.statementAt? a = some s)
    (hbefore : q.statementsBefore a = p.statementsBefore a) (hdraws : s.draws = true) :
    ∃ piece, p.pieceAt? a = some piece ∧ q.pieceAt? a = some piece := by
  -- Both programs look from one cursor.
  rcases s.exists_piece? (replay (p.statementsBefore a)).cursor hdraws with ⟨piece, hpiece⟩
  exact ⟨piece, by rw [p.pieceAt?_eq a s hp hdraws, hpiece],
    by rw [q.pieceAt?_eq a s hq hdraws, hbefore, hpiece]⟩

/-- A program agrees with itself in front of any address. -/
theorem AgreeBefore.refl (p : Program α) (a : Address) : p.AgreeBefore p a where
  handles := rfl
  pieces b s _ hs := ⟨hs, p.exists_pieceAt? p b s hs hs rfl⟩
  marks := rfl
  samples _ _ := ⟨rfl, rfl⟩

/-- A compiled program takes the durations of its phases. -/
theorem durations_compile (p : Program α) :
    Mover.durations p.compile.parts = p.phases.map (·.duration) := by
  rw [parts_compile, durations_phaseLegs]

/-- Programs with the same durations that have the same leg for a time are sampled alike then. -/
theorem sample_eq_of_part (p q : Program α) (t : α) (m : Mover α)
    (hdurations : Mover.durations q.compile.parts = Mover.durations p.compile.parts)
    (hp : p.compile.parts[(locate (Mover.durations p.compile.parts) t).1]? = some m)
    (hq : q.compile.parts[(locate (Mover.durations p.compile.parts) t).1]? = some m) :
    q.compile.sample t = p.compile.sample t ∧ q.compile.sample? t = p.compile.sample? t := by
  rw [← hdurations] at hq
  -- Either program asks the leg, for the same time.
  rcases Mover.motion_asked _ t m hp with ⟨hsample, hdefined⟩
  rcases Mover.motion_asked _ t m hq with ⟨hsample', hdefined'⟩
  rw [hdurations] at hsample' hdefined'
  have hsame : q.compile.sample t = p.compile.sample t := hsample'.trans hsample.symm
  refine ⟨hsame, ?_⟩
  unfold Mover.sample at hsame
  unfold Mover.sample? Motion.sample?
  rw [hsame]
  -- The leg refuses alike in both, and answers alike.
  exact congrArg (DomainError.guard · _) (hdefined'.trans hdefined.symm)

end Program

namespace Site

variable (site : Site α) (s s' : Statement α)

omit [Scalar α] in
/-- Statements in front of a site are not told what is put in. -/
theorem statementsBefore_fill_of_inFront (a : Address) (h : a.InFront (site.address 0)) :
    (site.fill s').statementsBefore a = (site.fill s).statementsBefore a := by
  unfold Address.InFront at h
  simp only [address] at h
  -- Up to the phase of the site the phases are those in front of it.
  have htake : ∀ t : Statement α, a.phase ≤ (site.front.length : Nat) →
      (site.fill t).phases.take a.phase.toNat = site.front.take a.phase.toNat :=
    fun t hle => List.take_append_of_le_length (by omega)
  unfold Program.statementsBefore
  rcases h with hphase | ⟨hphase, hstatement⟩
  · rw [htake s (by omega), htake s' (by omega), fill, fill,
      elementAt?_middle_of_ne _ _ (site.phase s') (site.phase s) _ (by omega)]
  · -- In the phase of the site, only statements in front of it are taken.
    have hphases : ∀ t : Statement α,
        elementAt? (site.fill t).phases a.phase = some (site.phase t) := by
      intro t
      rw [hphase]
      exact elementAt?_middle site.front site.back (site.phase t)
    have hstatements : ∀ t : Statement α, (site.phase t).statements.take a.statement.toNat
        = site.before.take a.statement.toNat :=
      fun t => List.take_append_of_le_length (by omega)
    rw [htake s (by omega), htake s' (by omega), hphases, hphases, Option.map_some,
      Option.map_some, hstatements, hstatements]

/-- The leg of a phase in front of a site. -/
theorem getElem?_parts_fill (i : Nat) (h : i < site.front.length) :
    (site.fill s).compile.parts[i]?
      = ((phaseLegs Pose.origin site.front).map Mover.leg)[i]? := by
  have hlength : i < ((phaseLegs Pose.origin site.front).map Mover.leg).length := by
    rw [List.length_map, length_phaseLegs]
    exact h
  rw [Program.parts_compile, fill, phaseLegs_append, List.map_append,
    List.getElem?_append_left hlength]

/-- Two fillings of a site agree in front of it. -/
theorem agreeBefore_fill (argument : Int) :
    (site.fill s).AgreeBefore (site.fill s') (site.address argument) := by
  have hdurations : Mover.durations (site.fill s').compile.parts
      = Mover.durations (site.fill s).compile.parts := by
    simp only [Program.durations_compile, fill, phase, List.map_append, List.map_cons]
  refine ⟨?_, ?_, congrArg runningSums hdurations, ?_⟩
  · rw [site.filter_inFront_handles_fill, site.filter_inFront_handles_fill]
  · intro b t hb ht
    -- A statement in front is not the one at the site.
    have hsame : (site.fill s').statementAt? b = some t := by
      rw [site.statementAt?_fill_of_not s s' b
        (fun heq => Address.not_inFront_of_eq b (site.address argument) heq hb)]
      exact ht
    exact ⟨hsame, Program.exists_pieceAt? _ _ b t ht hsame
      (site.statementsBefore_fill_of_inFront s s' b hb)⟩
  · intro t ht
    -- A time that belongs to a phase in front asks a leg that both programs have.
    have hindex : (locate (Mover.durations (site.fill s).compile.parts) t).1
        < site.front.length := Int.ofNat_lt.mp ht
    have hleg := List.getElem?_eq_getElem (l := (phaseLegs Pose.origin site.front).map Mover.leg)
      (by rw [List.length_map, length_phaseLegs]; exact hindex)
    exact Program.sample_eq_of_part _ _ t _ hdurations
      ((site.getElem?_parts_fill s _ hindex).trans hleg)
      ((site.getElem?_parts_fill s' _ hindex).trans hleg)

end Site

/-- An edit acts downstream. Whatever the handle addresses and wherever it is dragged, what is made
    of the statements in front of its address is the same as before: their handles, their pieces,
    and the samples at all times that the search gives to a phase in front. The phases end when
    they did. -/
theorem agreeBefore_change (p : Program α) (h : Handle α) (point : Vec α) :
    p.AgreeBefore (p.change h point) h.address := by
  rcases change_eq p h point with hsame | ⟨site, s, s', rfl, haddress, -, hchange⟩
  -- A refused edit leaves the program.
  · rw [hsame]
    exact Program.AgreeBefore.refl p h.address
  · rw [hchange, haddress]
    exact site.agreeBefore_fill s s' _

/-- A turn in the second of two phases, dragged, and a line in the first, at its end. -/
theorem agreeBefore_change_lineAndTurn :
    let p : Program Float :=
      ⟨[⟨.uniform, 1, [.line ⟨1, 2⟩]⟩, ⟨.uniform, 1, [.arcContinue 2 1]⟩]⟩
    let q := p.change ⟨⟨1, 0, 1⟩, .arc, .keyPoint, .onArc ⟨0, 1⟩ 2 3 1 true⟩ ⟨3, 4⟩
    ((locate (Mover.durations p.compile.parts) 1).1 : Int) < 1 ∧
      q.compile.sample 1 = p.compile.sample 1 ∧
      Address.InFront ⟨0, 0, 0⟩ ⟨1, 0, 1⟩ ∧ p.statementAt? ⟨0, 0, 0⟩ = some (.line ⟨1, 2⟩) ∧
      ∃ piece, p.pieceAt? ⟨0, 0, 0⟩ = some piece ∧ q.pieceAt? ⟨0, 0, 0⟩ = some piece := by
  intro p q
  have htime : ((locate (Mover.durations p.compile.parts) 1).1 : Int) < 1 := by
    have hlocate : (locate ([1, 1] : List Float) 1).1 = 0 := by decide +kernel
    rw [p.durations_compile]
    exact Int.ofNat_lt.mpr (hlocate ▸ Nat.one_pos)
  have hfront : Address.InFront ⟨0, 0, 0⟩ ⟨1, 0, 1⟩ := Or.inl Int.one_pos
  have hagree := agreeBefore_change p ⟨⟨1, 0, 1⟩, .arc, .keyPoint, .onArc ⟨0, 1⟩ 2 3 1 true⟩ ⟨3, 4⟩
  exact ⟨htime, (hagree.samples 1 htime).1, hfront, rfl,
    (hagree.pieces ⟨0, 0, 0⟩ _ hfront rfl).2 rfl⟩

end PlanarMotion
