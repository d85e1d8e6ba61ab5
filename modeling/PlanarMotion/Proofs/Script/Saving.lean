import PlanarMotion.Proofs.Handle.Frame
import PlanarMotion.Proofs.Script.Refusal

/-!
# Saving an Edited Program

A program that was read is edited, printed and read again. It comes back with the same phases
and the same kinds of statements, since an edit keeps the outline of a program and the text
keeps it too. Whether it comes back at all depends on the literals of the one statement that
was edited: it does if they are finite, and else the reader refuses the text that the printer
made. A point that is not finite is accepted by every handle, so such texts can be made.

## Main definitions

* `SameOutline`: Programs that differ in literals alone, as far as texts go.

## Theorems

* `read_print_change`: When an edited program is read back, and as what.
* `exists_refused_change`: An edited program that is not.
-/

namespace PlanarMotion

namespace Script

open PlanarMotion.Number

/-- The same phases with the same statements, apart from literals. -/
structure SameOutline (p q : Program Float) : Prop where
  /-- The phases have the same methods, in the same order. -/
  methods : q.phases.map (·.method) = p.phases.map (·.method)
  /-- Durations have the same value. -/
  durations : q.phases.map (fun phase => value phase.duration)
    = p.phases.map fun phase => value phase.duration
  /-- Statements are of the same kinds and have the same counts of chords. -/
  forms : q.phases.map (fun phase => phase.statements.map fun s => (s.kind, s.segments?))
    = p.phases.map fun phase => phase.statements.map fun s => (s.kind, s.segments?)

theorem SameOutline.trans {p q r : Program Float} (hfirst : SameOutline p q)
    (hsecond : SameOutline q r) : SameOutline p r :=
  ⟨hsecond.methods.trans hfirst.methods, hsecond.durations.trans hfirst.durations,
    hsecond.forms.trans hfirst.forms⟩

theorem sameOutline_of_outline (p q : Program Float) (houtline : q.outline = p.outline) :
    SameOutline p q := by
  have hmethods := congrArg (List.map Prod.fst) houtline
  have hdurations := congrArg (List.map fun entry => value entry.2.1) houtline
  have hforms := congrArg (List.map fun entry => entry.2.2) houtline
  simp only [Program.outline, List.map_map, Function.comp_def] at hmethods hdurations hforms
  exact ⟨hmethods, hdurations, hforms⟩

/-- What is read back from the text of a program has its outline. -/
theorem RoundsTo.sameOutline {p q : Program Float} (h : RoundsTo p q) : SameOutline p q :=
  ⟨h.methods, h.durations, h.forms⟩

/-- Durations and counts are part of the outline. -/
theorem framed_of_outline (p q : Program Float) (houtline : q.outline = p.outline)
    (hp : ∀ phase ∈ p.phases, Framed phase) : ∀ phase ∈ q.phases, Framed phase := by
  -- Being framed is a condition on the outline alone.
  have hframed : ∀ r : Program Float, (∀ phase ∈ r.phases, Framed phase) ↔
      ∀ entry ∈ r.outline, entry.2.1.isFinite = true ∧
        ∀ form ∈ entry.2.2, ∀ n ∈ form.2, Representable n := by
    intro r
    simp only [Program.outline, List.forall_mem_map, Statement.outline]
    exact forall₂_congr fun phase _ => ⟨fun hf => ⟨hf.finite, hf.counts⟩, fun hf => ⟨hf.1, hf.2⟩⟩
  rw [hframed, houtline, ← hframed]
  exact hp

theorem framed_of_storable (p : Program Float) (hp : p.Storable) :
    ∀ phase ∈ p.phases, Framed phase :=
  fun phase hphase => ⟨(hp phase hphase).finite,
    fun s hs => ((hp phase hphase).statements s hs).counts⟩

/-- An edit leaves durations and counts fit for a text. -/
theorem framed_change (p : Program Float) (h : Handle Float) (point : Vec Float)
    (hp : p.Storable) : ∀ phase ∈ (p.change h point).phases, Framed phase :=
  framed_of_outline p _ (outline_change p h point) (framed_of_storable p hp)

/-- Saving an edited program. Whatever handle is dragged to whatever point, a program that was
    read is read back from the text of the edited one exactly if the literals of the edited
    statement are finite. What is read then has the outline of the program, and its literals
    are those of the edited one up to three places. -/
theorem read_print_change (text : String) (p : Program Float) (h : Handle Float)
    (point : Vec Float) (hread : read text = .ok p) :
    ((∃ q, read (print (p.change h point)) = .ok q) ↔
      ∀ s, (p.change h point).statementAt? h.address = some s →
        ∀ x ∈ s.literals, x.isFinite = true) ∧
    ∀ q, read (print (p.change h point)) = .ok q →
      SameOutline p q ∧ RoundsTo (p.change h point) q := by
  have hdenotes := (readTokens_eq_ok_iff _ p).mp hread
  have hvalid := valid_change p h point hdenotes.valid
  have hiff := read_print_iff _ hvalid (framed_change p h point hdenotes.storable)
  refine ⟨hiff.trans ⟨?_, storable_change p h point hdenotes.storable⟩, ?_⟩
  · intro hstorable s hs
    -- The edited statement is one of those that have to be storable.
    rcases exists_site_of_statementAt? _ _ s hs with ⟨site, -, hsite, -⟩
    rw [hsite] at hstorable
    have hphase := hstorable (site.phase s) (List.mem_append_right _ List.mem_cons_self)
    exact (hphase.statements s (List.mem_append_right _ List.mem_cons_self)).finite
  · intro q hq
    have hstorable := hiff.mp ⟨q, hq⟩
    rw [read_print _ hvalid hstorable, Except.ok.injEq] at hq
    rw [← hq]
    -- The edit keeps the outline, and so does rounding.
    have hrounds := roundsTo_rounded _ hvalid hstorable
    have hedit := sameOutline_of_outline p _ (outline_change p h point)
    exact ⟨hedit.trans hrounds.sameOutline, hrounds⟩

/-- The start of a short program, dragged to another point. -/
theorem read_print_change_oneCurve :
    let h : Handle Float := ⟨⟨0, 0, 0⟩, .start, .start, .free ⟨1, 0⟩⟩
    ∃ p q, read (print oneCurve) = .ok p ∧
      (p.change h ⟨2, 3⟩).statementAt? h.address = some (.start ⟨2, 3⟩) ∧
      read (print (p.change h ⟨2, 3⟩)) = .ok q ∧ SameOutline p q := by
  intro h
  have hread := read_print oneCurve valid_oneCurve storable_oneCurve
  have hsaved := read_print_change _ _ h ⟨2, 3⟩ hread
  have hstart : (oneCurve.rounded.change h ⟨2, 3⟩).statementAt? h.address
      = some (.start ⟨2, 3⟩) := rfl
  have hfinite : ∀ s, (oneCurve.rounded.change h ⟨2, 3⟩).statementAt? h.address = some s →
      ∀ x ∈ s.literals, x.isFinite = true := by
    intro s hs
    rw [hstart, Option.some.injEq] at hs
    rw [← hs]
    decide
  rcases hsaved.1.mpr hfinite with ⟨q, hq⟩
  exact ⟨_, q, hread, hstart, hq, (hsaved.2 q hq).1⟩

/-- A line that is dragged to a point that is not finite is printed and not read again. -/
theorem exists_refused_change : ∃ text p h point, read text = .ok p ∧ h ∈ p.handles ∧
    ∀ q, read (print (p.change h point)) ≠ .ok q := by
  let oneLine : Program Float := ⟨[⟨.uniform, 1.0, [.line ⟨1, 2⟩]⟩]⟩
  let h : Handle Float := ⟨⟨0, 0, 0⟩, .line, .keyPoint, .free ⟨rounded 1, rounded 2⟩⟩
  have hvalid : oneLine.Valid := by decide
  have hstorable : oneLine.Storable := by
    refine List.forall_mem_singleton.mpr ⟨by decide, List.forall_mem_singleton.mpr ⟨by decide, ?_⟩⟩
    exact fun n hn => nomatch hn
  have hread := read_print oneLine hvalid hstorable
  have hrounded := (readTokens_eq_ok_iff _ _).mp hread
  refine ⟨_, _, h, ⟨Double.infinity, 0⟩, hread, List.mem_singleton.mpr rfl, ?_⟩
  intro q hq
  -- The edited line has a literal that is not finite, and what is read back has none.
  have hfinite := finite_of_read_print _ q (valid_change _ h _ hrounded.valid)
    (framed_change _ h _ hrounded.storable) hq
  have hinfinite : Double.infinity.isFinite = true :=
    hfinite ⟨.uniform, unsigned 1.0, [.line ⟨Double.infinity, 0⟩]⟩ (List.mem_singleton.mpr rfl)
      (.line ⟨Double.infinity, 0⟩) (List.mem_singleton.mpr rfl) Double.infinity
      List.mem_cons_self
  exact absurd hinfinite (by decide)

end Script

end PlanarMotion
