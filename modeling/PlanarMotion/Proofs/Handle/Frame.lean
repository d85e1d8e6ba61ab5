import PlanarMotion.Proofs.Handle.Site
import PlanarMotion.Proofs.Program.Storable

/-!
# What an Edit Keeps

An edit puts another statement in the place of one, and the new statement is of the same kind
and has as many chords. So a program keeps its outline under any edit: its phases, their methods
and durations, and the kinds of their statements. The handle may be one of the program's own or
any other value, and the point may be anything. The literals of one statement are all that
can change, and `change_eq` says which statement that is.

What holds of all programs with an outline therefore holds after an edit if it did before.
`Program.Valid` is of this sort. `Program.Storable` is not, since it asks for finite literals; but
there is only one statement left to ask.

## Main definitions

* `Program.outline`: A program without its literals.

## Theorems

* `exists_edit_error`: An address without a statement is refused.
* `change_eq`: An edit leaves a program as it is or fills a site of it anew.
* `Grip.drag?_outline`: A drag keeps the kind of a statement and its chords.
* `outline_change`: An edit keeps the outline.
* `valid_of_outline`: Whether a program can be built depends on its outline.
* `valid_change`, `storable_change`: What can be built, and what a text can hold, after an edit.
-/

namespace PlanarMotion

/-- A statement without its literals. -/
def Statement.outline {α : Type} (s : Statement α) : String × Option Nat :=
  (s.kind, s.segments?)

/-- A program without its literals: methods, durations, and the outlines of statements. -/
def Program.outline {α : Type} (p : Program α) :
    List (Method × α × List (String × Option Nat)) :=
  p.phases.map fun phase => (phase.method, phase.duration, phase.statements.map Statement.outline)

/-- Whether a statement can be built depends on its number of chords alone. -/
theorem Statement.valid_iff {α : Type} (s : Statement α) :
    s.Valid ↔ ∀ n ∈ s.segments?, 0 < n := by
  cases s <;> simp [Valid, segments?]

-- By cases on the statement: each setter answers for some kinds only, and with the same kind.
theorem Statement.setPoint?_outline {α : Type} (s s' : Statement α) (argument : Int) (point : Vec α)
    (h : s.setPoint? argument point = some s') : s'.outline = s.outline := by
  cases s <;> grind [setPoint?, outline, kind, segments?]

theorem Statement.setLength?_outline {α : Type} (s s' : Statement α) (length : α)
    (h : s.setLength? length = some s') : s'.outline = s.outline := by
  cases s <;> grind [setLength?, outline, kind, segments?]

theorem Statement.setAngle?_outline {α : Type} (s s' : Statement α) (angle : α)
    (h : s.setAngle? angle = some s') : s'.outline = s.outline := by
  cases s <;> grind [setAngle?, outline, kind, segments?]

section Scalars

variable {α : Type} [Scalar α]

/-- An address without a statement is refused. -/
theorem exists_edit_error (p : Program α) (h : Handle α) (point : Vec α)
    (hs : p.statementAt? h.address = none) : ∃ cause, p.edit h point = .error cause := by
  unfold Program.edit
  cases hphase : elementAt? p.phases h.address.phase with
  | none =>
      simp only [hphase]
      exact ⟨_, rfl⟩
  | some ph =>
      have hstatement : elementAt? ph.statements h.address.statement = none := by
        rw [Program.statementAt?, hphase] at hs
        exact hs
      simp only [hphase, hstatement]
      exact ⟨_, rfl⟩

/-- An edit leaves a program as it is, or it changes the statement at the address of the
    handle and nothing else. -/
theorem change_eq (p : Program α) (h : Handle α) (point : Vec α) :
    p.change h point = p ∨ ∃ (site : Site α) (s s' : Statement α), p = site.fill s ∧
      h.address = site.address h.address.argument ∧
      h.grip.drag? s h.address.argument point = some s' ∧ p.change h point = site.fill s' := by
  cases hs : p.statementAt? h.address with
  | none =>
      left
      -- Without a statement the edit is refused.
      rcases exists_edit_error p h point hs with ⟨cause, hedit⟩
      rw [Program.change, hedit]
  | some s =>
      rcases exists_site_of_statementAt? p h.address s hs with ⟨site, argument, rfl, haddress⟩
      have hargument : h.address.argument = argument := by rw [haddress, Site.address]
      -- With one, the drag of the grip decides.
      have hedit := site.edit_fill s h point argument haddress
      cases hdrag : h.grip.drag? s argument point with
      | none =>
          left
          rw [hdrag] at hedit
          rw [Program.change, hedit]
      | some s' =>
          right
          rw [hdrag] at hedit
          rw [← hargument] at haddress hdrag
          exact ⟨site, s, s', rfl, haddress, hdrag, by rw [Program.change, hedit]⟩

/-- Setting a radius keeps it as well, whether or not the angle is turned. -/
theorem Statement.setRadius?_outline (s s' : Statement α) (radius : α) (changesSide : Bool)
    (h : s.setRadius? radius changesSide = some s') : s'.outline = s.outline := by
  cases s <;> grind [setRadius?, outline, kind, segments?]

/-- A drag keeps the kind of a statement and its chords. -/
theorem Grip.drag?_outline (g : Grip α) (s s' : Statement α) (argument : Int) (point : Vec α)
    (h : g.drag? s argument point = some s') : s'.outline = s.outline := by
  cases g with
  | free position => exact s.setPoint?_outline s' argument point h
  | ray anchor direction length => exact s.setLength?_outline s' _ h
  | onArc center radius baseAngle angle keepsSign => exact s.setAngle?_outline s' _ h
  | radius start direction counterClockwise radius => exact s.setRadius?_outline s' _ _ h

omit [Scalar α] in
/-- The outline of a program sees only the outline of what is put in. -/
theorem Site.outline_fill (site : Site α) (s s' : Statement α) (h : s'.outline = s.outline) :
    (site.fill s').outline = (site.fill s).outline := by
  simp only [Program.outline, fill, phase, List.map_append, List.map_cons, h]

/-- An edit keeps the outline. -/
theorem outline_change (p : Program α) (h : Handle α) (point : Vec α) :
    (p.change h point).outline = p.outline := by
  rcases change_eq p h point with hsame | ⟨site, s, s', rfl, -, hdrag, hchange⟩
  · rw [hsame]
  · rw [hchange]
    exact site.outline_fill s s' (h.grip.drag?_outline s s' _ point hdrag)

/-- Whether a program can be built depends on its outline. -/
theorem valid_of_outline (p q : Program α) (h : q.outline = p.outline) (hp : p.Valid) :
    q.Valid := by
  -- The conditions are on durations and chord counts, which the outline has.
  have houtline : ∀ r : Program α, r.Valid ↔ ∀ entry ∈ r.outline, 0 ≤ entry.2.1 ∧
      ∀ form ∈ entry.2.2, ∀ n ∈ form.2, 0 < n := by
    intro r
    simp only [Program.Valid, Program.PhaseValid, Program.outline, Statement.outline,
      List.forall_mem_map, Statement.valid_iff]
  rw [houtline, h, ← houtline]
  exact hp

/-- What can be built can be built after an edit. -/
theorem valid_change (p : Program α) (h : Handle α) (point : Vec α) (hp : p.Valid) :
    (p.change h point).Valid :=
  valid_of_outline p _ (outline_change p h point) hp

end Scalars

open PlanarMotion.Number

/-- A text can hold an edited program if the literals of the statement that was edited are
    finite. -/
theorem storable_change (p : Program Float) (h : Handle Float) (point : Vec Float)
    (hp : p.Storable) (hfinite : ∀ s, (p.change h point).statementAt? h.address = some s →
      ∀ x ∈ s.literals, x.isFinite = true) : (p.change h point).Storable := by
  rcases change_eq p h point with hsame | ⟨site, s, s', rfl, haddress, hdrag, hchange⟩
  · rw [hsame]
    exact hp
  · have hsegments : s'.segments? = s.segments? :=
      congrArg Prod.snd (h.grip.drag?_outline s s' _ point hdrag)
    have hliterals := hfinite s' (by rw [hchange, haddress, site.statementAt?_fill])
    -- Only the literals of the edited statement are new; its count is the old one.
    have hs' : s.Storable → s'.Storable :=
      fun hs => ⟨hliterals, by rw [hsegments]; exact hs.counts⟩
    rw [hchange]
    simp only [Program.Storable, Site.fill, List.forall_mem_append, List.forall_mem_cons] at hp ⊢
    refine ⟨hp.1, ⟨hp.2.1.finite, ?_⟩, hp.2.2⟩
    have hstatements := hp.2.1.statements
    simp only [Site.phase, List.forall_mem_append, List.forall_mem_cons] at hstatements ⊢
    exact ⟨hstatements.1, hs' hstatements.2.1, hstatements.2.2⟩

end PlanarMotion
