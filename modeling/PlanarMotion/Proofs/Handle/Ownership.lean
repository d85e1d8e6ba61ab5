import PlanarMotion.Proofs.Handle.Arguments
import PlanarMotion.Proofs.Handle.Frame

/-!
# Which Argument a Drag Writes

Handles are listed by one table and taken back by another, and nothing ties the two together. A
handle may be written by hand, so it may name a statement and a kind for which the first table
has no entry. Here the tables are compared.

A handle is measured against its counterparts, the program's own handles of the same kind at the
same statement. A counterpart at the very address of the handle makes the drag write there. Where
there is none, the drag changes nothing, with one exception: a statement with a single handle of
the kind does not look at the argument index at all, since there is nothing to choose. The index
chooses among the points of a curve, and only there is a wrong one refused.

A drag writes one argument and keeps the others, apart from the radius of a turn. Its center may
be dragged to the other side, and then the angle behind the radius changes its sign.

## Main definitions

* `Grip.written`: What a drag writes.
* `Program.Rewrites`: A program with one argument written.
* `Program.counterparts`: The handles of a program that a handle may stand for.

## Theorems

* `Grip.drag?_rewrites`: A drag that is taken writes the argument of a counterpart.
* `Grip.drag?_eq_none`: A drag that is refused has no counterpart to choose.
* `Site.exists_target`: A drag that is taken rewrites the program at a counterpart.
* `Statement.exists_drag_of_mem`, `argumentAt?_change_of_mem`: Own handles write their own
  arguments.
* `change_counterparts`: What an edit does, told by the counterparts.
* `change_stray_argument`: A wrong argument index that is not refused.
-/

namespace PlanarMotion

variable {α : Type} [Scalar α]

/-- The same argument to the other side. -/
def Argument.opposite : Argument α → Argument α
  | .point place => .point (-place)
  | .number x => .number (-x)

/-- What a drag of a grip to a point writes. -/
def Grip.written (g : Grip α) (point : Vec α) : Argument α :=
  match g with
  | .free _ => .point point
  | .ray anchor direction _ => .number (rayLength anchor direction point)
  | .onArc center _ baseAngle angle keepsSign =>
    .number (draggedAngle center baseAngle angle keepsSign point)
  | .radius start direction _ _ => .number (Scalar.abs (signedRadius start direction point))

/-- A statement with one argument written as a drag of a grip does. A radius may turn the angle
    behind it. -/
structure Statement.Rewrites (s s' : Statement α) (g : Grip α) (index : Int) (point : Vec α) :
    Prop where
  /-- The statement is of the same kind and has as many chords. -/
  outline : s'.outline = s.outline
  /-- The argument is what the drag writes. -/
  written : elementAt? s'.arguments index = some (g.written point)
  /-- The others are kept. -/
  kept : ∀ other, other ≠ index → elementAt? s'.arguments other = elementAt? s.arguments other ∨
    (g.kind = "Radius" ∧ other = index + 1 ∧
      elementAt? s'.arguments other = (elementAt? s.arguments other).map Argument.opposite)

/-- A program with the argument at an address written as a drag of a grip does. A radius may turn
    the angle behind it. -/
structure Program.Rewrites (p p' : Program α) (g : Grip α) (a : Address) (point : Vec α) :
    Prop where
  /-- Methods, durations, kinds of statements and chords are the same. -/
  outline : p'.outline = p.outline
  /-- The argument is what the drag writes. -/
  written : p'.argumentAt? a = some (g.written point)
  /-- The others are kept. -/
  kept : ∀ b, b ≠ a → p'.argumentAt? b = p.argumentAt? b ∨
    (g.kind = "Radius" ∧ b = { a with argument := a.argument + 1 } ∧
      p'.argumentAt? b = (p.argumentAt? b).map Argument.opposite)

/-- The handles of a statement that are of a kind. -/
def Statement.handlesOf (s : Statement α) (cursor : Pose α) (address : Address) (kind : String) :
    List (Handle α) :=
  (s.handles cursor address).filter fun own => own.grip.kind == kind

/-- The handles of a program that a handle may stand for: those of the statement at its address
    that are of its kind. -/
def Program.counterparts (p : Program α) (h : Handle α) : List (Handle α) :=
  (p.handlesAt h.address).filter fun own => own.grip.kind == h.grip.kind

/-- A counterpart is a handle of the statement at the address that is of the same kind. -/
theorem Program.mem_counterparts_iff (p : Program α) (h own : Handle α) : own ∈ p.counterparts h ↔
    own ∈ p.handles ∧ own.IsAt h.address ∧ own.grip.kind = h.grip.kind := by
  rw [counterparts, handlesAt, List.mem_filter, List.mem_filter, decide_eq_true_eq, beq_iff_eq,
    and_assoc]

/-- Replacing one argument rewrites a statement. -/
theorem Statement.rewrites_of_set (s s' : Statement α) (g : Grip α) (index : Nat) (point : Vec α)
    (houtline : s'.outline = s.outline) (hindex : index < s.arguments.length)
    (hset : s'.arguments = s.arguments.set index (g.written point)) :
    s.Rewrites s' g index point := by
  refine ⟨houtline, ?_, fun other hother => Or.inl ?_⟩
  · rw [hset, elementAt?_set_self _ _ _ hindex]
  · rw [hset, elementAt?_set_of_ne _ _ _ _ hother]

/-- The center of a turn writes the radius, and the angle behind it keeps its size. -/
theorem Statement.rewrites_radius (radius angle : α) (changesSide : Bool) (g : Grip α)
    (point : Vec α) (hkind : g.kind = "Radius") (hwritten : g.written point = .number radius)
    (old : α) :
    (Statement.arcContinue old angle).Rewrites
      (.arcContinue radius (if changesSide then -angle else angle)) g 0 point := by
  refine ⟨rfl, ?_, fun other hother => ?_⟩
  · rw [hwritten]
    rfl
  · by_cases hangle : other = 1
    · rw [hangle]
      -- The angle stands right behind the radius, and it is kept or turned.
      cases changesSide with
      | false => exact Or.inl rfl
      | true => exact Or.inr ⟨hkind, rfl, rfl⟩
    · -- No further argument, on either side.
      have hset : (Statement.arcContinue radius (if changesSide then -angle else angle)).arguments
          = (((Statement.arcContinue old angle).arguments.set 1
              (.number (if changesSide then -angle else angle))).set 0 (.number radius)) := rfl
      left
      rw [hset, elementAt?_set_of_ne _ _ _ _ hother, elementAt?_set_of_ne _ _ _ _ hangle]

namespace Grip

/-- A statement with a single handle of a kind has it written whatever the index says. -/
theorem exists_single (g : Grip α) (s s' : Statement α) (cursor : Pose α) (address : Address)
    (argument : Int) (point : Vec α) (own : Handle α)
    (hown : s.handlesOf cursor address g.kind = [own])
    (hrewrites : s.Rewrites s' g own.address.argument point) :
    ∃ own ∈ s.handlesOf cursor address g.kind, (own.address.argument = argument ∨
      s.handlesOf cursor address g.kind = [own]) ∧
      s.Rewrites s' g own.address.argument point := by
  refine ⟨own, ?_, Or.inr hown, hrewrites⟩
  rw [hown]
  exact List.mem_singleton.mpr rfl

-- By cases on the grip and on the statement. Where a statement owns one handle of the kind the
-- index is not looked at, else it is the index of one of them.
theorem drag?_rewrites (g : Grip α) (s s' : Statement α) (cursor : Pose α) (address : Address)
    (argument : Int) (point : Vec α) (h : g.drag? s argument point = some s') :
    ∃ own ∈ s.handlesOf cursor address g.kind, (own.address.argument = argument ∨
      s.handlesOf cursor address g.kind = [own]) ∧
      s.Rewrites s' g own.address.argument point := by
  cases g with
  | free position =>
      cases s with
      | start _ | line _ | arc _ _ =>
          cases h
          exact exists_single _ _ _ cursor address argument point _ rfl
            (Statement.rewrites_of_set _ _ _ 0 point rfl (Nat.succ_pos _) rfl)
      | bezier c1 c2 stop segments =>
          -- Three points with an index each, so the index says which one is written.
          have hown : (Statement.bezier c1 c2 stop segments).handlesOf cursor address "Free"
              = [⟨{ address with argument := 0 }, .bezier, .bezier, .free c1⟩,
                ⟨{ address with argument := 1 }, .bezier, .bezier, .free c2⟩,
                ⟨{ address with argument := 2 }, .bezier, .keyPoint, .free stop⟩] := rfl
          simp only [drag?, Statement.setPoint?] at h
          simp only [kind, hown]
          by_cases hfirst : argument = 0
          · rw [if_pos hfirst] at h
            cases h
            exact ⟨_, List.mem_cons_self, Or.inl hfirst.symm,
              Statement.rewrites_of_set _ _ _ 0 point rfl (by simp [Statement.arguments]) rfl⟩
          rw [if_neg hfirst] at h
          by_cases hsecond : argument = 1
          · rw [if_pos hsecond] at h
            cases h
            exact ⟨_, List.mem_cons_of_mem _ List.mem_cons_self, Or.inl hsecond.symm,
              Statement.rewrites_of_set _ _ _ 1 point rfl (by simp [Statement.arguments]) rfl⟩
          rw [if_neg hsecond] at h
          by_cases hthird : argument = 2
          · rw [if_pos hthird] at h
            cases h
            exact ⟨_, List.mem_cons_of_mem _ (List.mem_cons_of_mem _ List.mem_cons_self),
              Or.inl hthird.symm,
              Statement.rewrites_of_set _ _ _ 2 point rfl (by simp [Statement.arguments]) rfl⟩
          · rw [if_neg hthird] at h
            cases h
      | bezierContinue c1Offset c2 stop segments =>
          -- The offset in front is no point, so indices begin with one here.
          have hown : (Statement.bezierContinue c1Offset c2 stop segments).handlesOf cursor address
              "Free" = [⟨{ address with argument := 1 }, .bezier, .bezier, .free c2⟩,
                ⟨{ address with argument := 2 }, .bezier, .keyPoint, .free stop⟩] := rfl
          simp only [drag?, Statement.setPoint?] at h
          simp only [kind, hown]
          by_cases hfirst : argument = 1
          · rw [if_pos hfirst] at h
            cases h
            exact ⟨_, List.mem_cons_self, Or.inl hfirst.symm,
              Statement.rewrites_of_set _ _ _ 1 point rfl (by simp [Statement.arguments]) rfl⟩
          rw [if_neg hfirst] at h
          by_cases hsecond : argument = 2
          · rw [if_pos hsecond] at h
            cases h
            exact ⟨_, List.mem_cons_of_mem _ List.mem_cons_self, Or.inl hsecond.symm,
              Statement.rewrites_of_set _ _ _ 2 point rfl (by simp [Statement.arguments]) rfl⟩
          · rw [if_neg hsecond] at h
            cases h
      -- These have no point to be set.
      | lineContinue _ | arcContinue _ _ => cases h
  | ray anchor direction length =>
      cases s with
      | lineContinue _ | bezierContinue _ _ _ _ =>
          cases h
          exact exists_single _ _ _ cursor address argument point _ rfl
            (Statement.rewrites_of_set _ _ _ 0 point rfl (Nat.succ_pos _) rfl)
      | _ => cases h
  | onArc center radius baseAngle angle keepsSign =>
      cases s with
      | arc _ _ | arcContinue _ _ =>
          cases h
          exact exists_single _ _ _ cursor address argument point _ rfl
            (Statement.rewrites_of_set _ _ _ 1 point rfl (Nat.lt_succ_self 1) rfl)
      | _ => cases h
  | radius start direction counterClockwise radius =>
      cases s with
      | arcContinue _ _ =>
          cases h
          exact exists_single _ _ _ cursor address argument point _ rfl
            (Statement.rewrites_radius _ _ _ _ point rfl rfl _)
      | _ => cases h

/-- A drag that is refused has no handle of its kind at the index, and no single one. -/
theorem drag?_eq_none (g : Grip α) (s : Statement α) (cursor : Pose α) (address : Address)
    (argument : Int) (point : Vec α) (h : g.drag? s argument point = none) :
    (∀ own ∈ s.handlesOf cursor address g.kind, own.address.argument ≠ argument) ∧
      (s.handlesOf cursor address g.kind).length ≠ 1 := by
  cases g with
  | free position =>
      cases s with
      -- A single point takes a drag whatever the index.
      | start _ | line _ | arc _ _ => cases h
      | lineContinue _ | arcContinue _ _ => simp [Statement.handlesOf, Statement.handles, kind]
      -- The points of a curve have indices, and a drag to any of these is taken.
      | bezier c1 c2 stop segments =>
          refine ⟨fun own hown hargument => ?_,
            by simp [Statement.handlesOf, Statement.handles, kind]⟩
          simp only [Statement.handlesOf, Statement.handles, kind, List.mem_filter, List.mem_cons,
            List.not_mem_nil, or_false] at hown
          rcases hown.1 with rfl | rfl | rfl <;> subst hargument <;> cases h
      | bezierContinue c1Offset c2 stop segments =>
          refine ⟨fun own hown hargument => ?_,
            by simp [Statement.handlesOf, Statement.handles, kind]⟩
          simp only [Statement.handlesOf, Statement.handles, kind, List.mem_filter, List.mem_cons,
            List.not_mem_nil, or_false] at hown
          rcases hown with ⟨rfl | rfl | rfl, hkind⟩
          -- The ray of the offset is of another kind.
          · simp at hkind
          · subst hargument
            cases h
          · subst hargument
            cases h
  | ray anchor direction length =>
      cases s with
      | lineContinue _ | bezierContinue _ _ _ _ => cases h
      | _ => simp [Statement.handlesOf, Statement.handles, kind]
  | onArc center radius baseAngle angle keepsSign =>
      cases s with
      | arc _ _ | arcContinue _ _ => cases h
      | _ => simp [Statement.handlesOf, Statement.handles, kind]
  | radius start direction counterClockwise radius =>
      cases s with
      | arcContinue _ _ => cases h
      | _ => simp [Statement.handlesOf, Statement.handles, kind]

end Grip

section Sites

variable (site : Site α) (s s' : Statement α)

theorem Site.counterparts_fill (h : Handle α)
    (haddress : h.address = site.address h.address.argument) :
    (site.fill s).counterparts h = s.handlesOf site.cursor (site.address 0) h.grip.kind := by
  rw [Program.counterparts, haddress, site.handlesAt_fill, Statement.handlesOf]

/-- A statement that is rewritten at a site rewrites the program. -/
theorem Site.rewrites_fill (g : Grip α) (argument : Int) (point : Vec α)
    (h : s.Rewrites s' g argument point) :
    (site.fill s).Rewrites (site.fill s') g (site.address argument) point := by
  refine ⟨site.outline_fill s s' h.outline, ?_, fun b hb => ?_⟩
  · rw [site.argumentAt?_fill, h.written]
  · by_cases hat : b.phase = (site.address 0).phase ∧ b.statement = (site.address 0).statement
    · -- The same statement, so the argument is another one.
      have hsite : b = site.address b.argument := by
        rcases b with ⟨phase, statement, other⟩
        rw [Site.address, Address.mk.injEq]
        exact ⟨hat.1, hat.2, rfl⟩
      have hother : b.argument ≠ argument := by
        intro hsame
        rw [hsame] at hsite
        exact hb hsite
      rw [hsite, site.argumentAt?_fill, site.argumentAt?_fill]
      -- What is kept of the statement is kept at its site; the turned angle is at the next address.
      rcases h.kept b.argument hother with hkept | ⟨hkind, hnext, hturned⟩
      · exact Or.inl hkept
      · refine Or.inr ⟨hkind, ?_, hturned⟩
        rw [hnext]
        rfl
    · exact Or.inl (site.argumentAt?_fill_of_not s s' b hat)

/-- A drag that is taken rewrites the program at a counterpart: the one at the address of the
    handle, or the only one. -/
theorem Site.exists_target (h : Handle α) (point : Vec α)
    (haddress : h.address = site.address h.address.argument)
    (hdrag : h.grip.drag? s h.address.argument point = some s') :
    ∃ target ∈ (site.fill s).counterparts h,
      (target.address = h.address ∨ (site.fill s).counterparts h = [target]) ∧
        (site.fill s).Rewrites (site.fill s') h.grip target.address point := by
  rw [site.counterparts_fill s h haddress]
  rcases h.grip.drag?_rewrites s s' site.cursor (site.address 0) _ point hdrag with
    ⟨target, htarget, hchosen, hrewrites⟩
  -- Counterparts have the address of the handle up to the argument.
  have hown : target.address = site.address target.address.argument :=
    s.address_handles _ _ target (List.mem_of_mem_filter htarget)
  refine ⟨target, htarget, hchosen.imp_left fun hindex => ?_, ?_⟩
  · rw [hown, hindex, ← haddress]
  · rw [hown]
    exact site.rewrites_fill s s' h.grip _ point hrewrites

end Sites

/-- A statement takes a drag of a handle of its own and has the argument of the handle written. -/
theorem Statement.exists_drag_of_mem (s : Statement α) (cursor : Pose α) (address : Address)
    (h : Handle α) (hmem : h ∈ s.handles cursor address) (point : Vec α) :
    ∃ s', h.grip.drag? s h.address.argument point = some s' ∧
      s.Rewrites s' h.grip h.address.argument point := by
  have hown : h ∈ s.handlesOf cursor address h.grip.kind :=
    List.mem_filter.mpr ⟨hmem, beq_self_eq_true _⟩
  cases hdrag : h.grip.drag? s h.address.argument point with
  | none =>
      have hnone := h.grip.drag?_eq_none s cursor address _ point hdrag
      -- A refused drag would have no own handle at the index, but this one is.
      exact absurd rfl (hnone.1 h hown)
  | some s' =>
      rcases h.grip.drag?_rewrites s s' cursor address _ point hdrag with
        ⟨own, -, hindex | hsingle, hrewrites⟩
      · rw [hindex] at hrewrites
        exact ⟨s', rfl, hrewrites⟩
      -- The only handle of the kind is the one that is dragged.
      · rw [hsingle] at hown
        rw [← List.mem_singleton.mp hown] at hrewrites
        exact ⟨s', rfl, hrewrites⟩

/-- So a drag of a handle of a program writes the argument at the address of the handle. -/
theorem argumentAt?_change_of_mem (p : Program α) (h : Handle α) (hmem : h ∈ p.handles)
    (point : Vec α) :
    (p.change h point).argumentAt? h.address = some (h.grip.written point) := by
  rcases exists_site_of_mem p h hmem with ⟨site, s, rfl, haddress, hown⟩
  rcases s.exists_drag_of_mem _ _ h hown point with ⟨s', hdrag, hrewrites⟩
  rw [site.change_fill s s' h point _ haddress hdrag, haddress]
  exact (site.rewrites_fill s s' h.grip _ point hrewrites).written

/-- An address without a statement has no handles. -/
theorem counterparts_eq_nil (p : Program α) (h : Handle α) (hs : p.statementAt? h.address = none) :
    p.counterparts h = [] := by
  rw [List.eq_nil_iff_forall_not_mem]
  intro own hown
  rcases (p.mem_counterparts_iff h own).mp hown with ⟨hmem, hat, -⟩
  -- A counterpart would have an argument, and with it a statement at the address.
  have hsome := (exists_mem_handles_iff p own.address).mp ⟨own, hmem, rfl⟩
  have hnone : p.statementAt? own.address = none := by
    rw [Program.statementAt?, hat.1, hat.2]
    exact hs
  rw [Program.argumentAt?, hnone] at hsome
  cases hsome

/-- What an edit does. A counterpart at the address of the handle, or the only counterpart, has
    its argument written, and the edit is accepted. Without any counterpart, or with several of
    which none is at the address, the edit is refused and nothing changes, to whatever point the
    handle is dragged. -/
theorem change_counterparts (p : Program α) (h : Handle α) (point : Vec α) :
    (∀ own ∈ p.counterparts h, own.address = h.address ∨ p.counterparts h = [own] →
      p.edit h point = .ok (p.change h point) ∧
        p.Rewrites (p.change h point) h.grip own.address point) ∧
    ((∀ own ∈ p.counterparts h, own.address ≠ h.address) → (p.counterparts h).length ≠ 1 →
      (∃ cause, p.edit h point = .error cause) ∧ p.change h point = p) := by
  cases hs : p.statementAt? h.address with
  | none =>
      rcases exists_edit_error p h point hs with ⟨cause, hedit⟩
      -- Without a statement there are no counterparts, and the edit is refused.
      rw [counterparts_eq_nil p h hs]
      exact ⟨List.forall_mem_nil _, fun _ _ => ⟨⟨cause, hedit⟩, by rw [Program.change, hedit]⟩⟩
  | some s =>
      rcases exists_site_of_statementAt? p h.address s hs with ⟨site, argument, rfl, haddress⟩
      have hargument : h.address.argument = argument := by rw [haddress, Site.address]
      have hedit := site.edit_fill s h point argument haddress
      rw [← hargument] at haddress hedit
      cases hdrag : h.grip.drag? s h.address.argument point with
      | none =>
          rw [hdrag] at hedit
          have hnone := h.grip.drag?_eq_none s site.cursor (site.address 0) _ point hdrag
          -- A refused drag: by what it takes to be refused, no handle is a choice.
          rw [← site.counterparts_fill s h haddress] at hnone
          refine ⟨fun own hmem howned => ?_,
            fun _ _ => ⟨⟨_, hedit⟩, by rw [Program.change, hedit]⟩⟩
          rcases howned with hsame | hsingle
          · exact absurd (congrArg Address.argument hsame) (hnone.1 own hmem)
          · exact absurd (congrArg List.length hsingle) hnone.2
      | some s' =>
          rw [hdrag] at hedit
          have hchange : (site.fill s).change h point = site.fill s' := by
            rw [Program.change, hedit]
          rcases site.exists_target s s' h point haddress hdrag with
            ⟨target, htarget, hchosen, hrewrites⟩
          refine ⟨fun own hmem howned => ?_, fun hstray hseveral => ?_⟩
          · -- There is no choice: both are at the address of the handle, or one is the only one.
            have hsame : target.address = own.address := by
              rcases howned with howned | hsingle
              · rcases hchosen with hat | hsingle
                · rw [hat, howned]
                · rw [hsingle] at hmem
                  rw [List.mem_singleton.mp hmem]
              · rw [hsingle] at htarget
                rw [List.mem_singleton.mp htarget]
            rw [hchange, ← hsame]
            exact ⟨hedit, hrewrites⟩
          -- A drag that is taken has a target, which is at the address or the only one.
          · rcases hchosen with hat | hsingle
            · exact absurd hat (hstray target htarget)
            · exact absurd (congrArg List.length hsingle) hseveral

/-- The end of a curve, and an index beyond it. -/
theorem change_counterparts_curve :
    let p : Program Float := ⟨[⟨.uniform, 1, [.bezier ⟨0, 1⟩ ⟨1, 1⟩ ⟨1, 0⟩ 4]⟩]⟩
    let h : Handle Float := ⟨⟨0, 0, 2⟩, .bezier, .keyPoint, .free ⟨1, 0⟩⟩
    let stray : Handle Float := ⟨⟨0, 0, 3⟩, .bezier, .keyPoint, .free ⟨1, 0⟩⟩
    h ∈ p.counterparts h ∧ p.Rewrites (p.change h ⟨7, 7⟩) h.grip h.address ⟨7, 7⟩ ∧
      (∀ own ∈ p.counterparts stray, own.address ≠ stray.address) ∧
      (p.counterparts stray).length ≠ 1 ∧ p.change stray ⟨7, 7⟩ = p := by
  intro p h stray
  have hpoints : p.counterparts h = [⟨⟨0, 0, 0⟩, .bezier, .bezier, .free ⟨0, 1⟩⟩,
      ⟨⟨0, 0, 1⟩, .bezier, .bezier, .free ⟨1, 1⟩⟩, h] := rfl
  have hmem : h ∈ p.counterparts h := by
    rw [hpoints]
    exact List.mem_cons_of_mem _ (List.mem_cons_of_mem _ List.mem_cons_self)
  have hstray : ∀ own ∈ p.counterparts stray, own.address ≠ stray.address := by
    have hsame : p.counterparts stray = p.counterparts h := rfl
    rw [hsame, hpoints, List.forall_mem_cons, List.forall_mem_cons, List.forall_mem_singleton]
    exact ⟨by decide, by decide, by decide⟩
  have hseveral : (p.counterparts stray).length ≠ 1 := by decide
  exact ⟨hmem, ((change_counterparts p h ⟨7, 7⟩).1 h hmem (Or.inl rfl)).2, hstray, hseveral,
    ((change_counterparts p stray ⟨7, 7⟩).2 hstray hseveral).2⟩

/-- A wrong argument index that is not refused: a line has a single point, so a handle that names
    its sixth argument moves its end. -/
theorem change_stray_argument :
    let p : Program Float := ⟨[⟨.uniform, 1, [.line ⟨1, 2⟩]⟩]⟩
    let h : Handle Float := ⟨⟨0, 0, 5⟩, .line, .keyPoint, .free ⟨1, 2⟩⟩
    (∀ own ∈ p.handles, own.grip.kind = h.grip.kind → own.address ≠ h.address) ∧
      p.change h ⟨7, 7⟩ ≠ p := by
  intro p h
  have hhandles : p.handles = [⟨⟨0, 0, 0⟩, .line, .keyPoint, .free ⟨1, 2⟩⟩] := rfl
  constructor
  · rw [hhandles, List.forall_mem_singleton]
    intro _
    decide
  · have hchange : p.change h ⟨7, 7⟩ = ⟨[⟨.uniform, 1, [.line ⟨7, 7⟩]⟩]⟩ := rfl
    rw [hchange]
    decide

end PlanarMotion
