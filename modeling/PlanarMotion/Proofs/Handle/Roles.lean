import PlanarMotion.Proofs.Handle.Ownership

/-!
# What a Drag May Touch

Each argument of a statement has a role: it is a place, a distance straight on, the radius of a
turn or its angle. A grip has a role as well, and the argument that a drag writes is one of the
same role. Where the statement has none, there is no rule for the drag, and nothing changes.

This confines an edit, whatever handle it is made with and whatever is computed for the argument.
The handle may have been made from another program or written by hand, so its address can be any
three integers; negative ones do not count from the end, they are out of range like those that are
too large. One statement can change at all, in one argument, to what the drag writes. The radius of
a turn is the exception of which `Argument.opposite` takes care: the angle behind it may change its
sign, but not its size.

Nothing here computes with numbers. That the sign is turned is a negation and that the radius is
a distance is an absolute value, of any scalars.

## Main definitions

* `Role`, `Statement.roles`, `Grip.role`: What arguments and grips are for.
* `Statement.Touched`: A statement with one argument written.
* `Address.Within`: An address names a statement of a program.
* `Program.Confined`: A program of which one statement may have been touched.

## Theorems

* `Grip.drag?_touched`: A drag writes an argument of its role.
* `Grip.drag?_eq_none_of_role`: Without one it is refused.
* `Address.within_iff`: Which addresses find a statement.
* `statementAt?_change_of_not`: Other statements stay.
* `change_confined`: An edit is confined to its own argument.
-/

namespace PlanarMotion

/-- What an argument of a statement is for. -/
inductive Role where
  /-- A point. -/
  | place
  /-- A distance straight on. -/
  | length
  /-- The radius of a turn. -/
  | radius
  /-- The angle of a turn. -/
  | angle
  deriving DecidableEq, Repr

section Roles

variable {α : Type}

/-- The roles of the arguments of a statement, in their order. -/
def Statement.roles : Statement α → List Role
  | .start _ => [.place]
  | .line _ => [.place]
  | .lineContinue _ => [.length]
  | .arc _ _ => [.place, .angle]
  | .arcContinue _ _ => [.radius, .angle]
  | .bezier _ _ _ _ => [.place, .place, .place]
  | .bezierContinue _ _ _ _ => [.length, .place, .place]

/-- The role of the arguments that a grip is for. -/
def Grip.role : Grip α → Role
  | .free _ => .place
  | .ray .. => .length
  | .onArc .. => .angle
  | .radius .. => .radius

/-- An address names a statement of a program: its indices count from zero and stay below the
    number of phases and the number of statements. -/
structure Address.Within (a : Address) (p : Program α) : Prop where
  /-- There is such a phase. -/
  phase : 0 ≤ a.phase ∧ a.phase < p.phases.length
  /-- It has such a statement. -/
  statement : 0 ≤ a.statement ∧
    ∀ ph, p.phases[a.phase.toNat]? = some ph → a.statement < ph.statements.length

/-- An integer index finds what its natural number finds, if it is not negative. -/
theorem elementAt?_eq_some_iff (xs : List α) (index : Int) (x : α) :
    elementAt? xs index = some x ↔ 0 ≤ index ∧ xs[index.toNat]? = some x := by
  unfold elementAt?
  by_cases hneg : index < 0
  · rw [if_pos hneg]
    exact iff_of_false (Option.some_ne_none x).symm (fun h => absurd h.1 (by omega))
  · rw [if_neg hneg]
    exact (and_iff_right (by omega)).symm

/-- The addresses that name a statement are those that find one. -/
theorem Address.within_iff (a : Address) (p : Program α) :
    a.Within p ↔ (p.statementAt? a).isSome := by
  constructor
  · rintro ⟨⟨hphase, hphases⟩, hstatement, hstatements⟩
    have hlt : a.phase.toNat < p.phases.length := by omega
    have hget := List.getElem?_eq_getElem hlt
    have hstatements' := hstatements _ hget
    have hlt' : a.statement.toNat < p.phases[a.phase.toNat].statements.length := by omega
    rw [Program.statementAt?, (elementAt?_eq_some_iff _ _ _).mpr ⟨hphase, hget⟩,
      Option.bind_some, (elementAt?_eq_some_iff _ _ _).mpr
        ⟨hstatement, List.getElem?_eq_getElem hlt'⟩]
    rfl
  · intro hsome
    rcases Option.isSome_iff_exists.mp hsome with ⟨s, hs⟩
    rcases Option.bind_eq_some_iff.mp hs with ⟨ph, hphase, hstatement⟩
    rcases (elementAt?_eq_some_iff _ _ _).mp hphase with ⟨hpos, hget⟩
    rcases (elementAt?_eq_some_iff _ _ _).mp hstatement with ⟨hpos', hget'⟩
    have hlt := (List.getElem?_eq_some_iff.mp hget).1
    have hlt' := (List.getElem?_eq_some_iff.mp hget').1
    -- The phase that was found is the one of whose statements the bound speaks.
    refine ⟨⟨hpos, by omega⟩, hpos', fun other hother => ?_⟩
    rw [hget, Option.some.injEq] at hother
    rw [← hother]
    omega

/-- Setting a point sets one of the places. -/
theorem Statement.setPoint?_arguments (s s' : Statement α) (argument : Int) (point : Vec α)
    (h : s.setPoint? argument point = some s') : ∃ index, s.roles[index]? = some .place ∧
      s'.arguments = s.arguments.set index (.point point) := by
  cases s with
  | start _ | line _ | arc _ _ =>
      cases h
      exact ⟨0, rfl, rfl⟩
  | lineContinue _ | arcContinue _ _ => cases h
  | bezier c1 c2 stop segments =>
      simp only [setPoint?] at h
      -- The argument index says which of the three points is set.
      by_cases hfirst : argument = 0
      · rw [if_pos hfirst] at h
        cases h
        exact ⟨0, rfl, rfl⟩
      rw [if_neg hfirst] at h
      by_cases hsecond : argument = 1
      · rw [if_pos hsecond] at h
        cases h
        exact ⟨1, rfl, rfl⟩
      rw [if_neg hsecond] at h
      by_cases hthird : argument = 2
      · rw [if_pos hthird] at h
        cases h
        exact ⟨2, rfl, rfl⟩
      · rw [if_neg hthird] at h
        cases h
  | bezierContinue c1Offset c2 stop segments =>
      simp only [setPoint?] at h
      -- The offset in front is no point, so the index starts at one.
      by_cases hfirst : argument = 1
      · rw [if_pos hfirst] at h
        cases h
        exact ⟨1, rfl, rfl⟩
      rw [if_neg hfirst] at h
      by_cases hsecond : argument = 2
      · rw [if_pos hsecond] at h
        cases h
        exact ⟨2, rfl, rfl⟩
      · rw [if_neg hsecond] at h
        cases h

/-- Setting a length sets the distance straight on. -/
theorem Statement.setLength?_arguments (s s' : Statement α) (length : α)
    (h : s.setLength? length = some s') : ∃ index, s.roles[index]? = some .length ∧
      s'.arguments = s.arguments.set index (.number length) := by
  cases s with
  | lineContinue _ | bezierContinue _ _ _ _ =>
      cases h
      exact ⟨0, rfl, rfl⟩
  | _ => cases h

/-- Setting an angle sets the angle of the turn. -/
theorem Statement.setAngle?_arguments (s s' : Statement α) (angle : α)
    (h : s.setAngle? angle = some s') : ∃ index, s.roles[index]? = some .angle ∧
      s'.arguments = s.arguments.set index (.number angle) := by
  cases s with
  | arc _ _ | arcContinue _ _ =>
      cases h
      exact ⟨1, rfl, rfl⟩
  | _ => cases h

end Roles

section Scalars

variable {α : Type} [Scalar α]

/-- A statement of which a drag of a grip has written an argument. The angle behind a radius may
    have changed its sign as well. -/
structure Statement.Touched (s s' : Statement α) (g : Grip α) (point : Vec α) : Prop where
  /-- The statement is of the same kind. -/
  kind : s'.kind = s.kind
  /-- It has as many chords. -/
  segments : s'.segments? = s.segments?
  /-- One argument of the grip's role is what the drag writes, and the others are as they were. -/
  arguments : ∃ index, s.roles[index]? = some g.role ∧
    (s'.arguments = s.arguments.set index (g.written point) ∨
      g.role = .radius ∧ s.roles[index + 1]? = some .angle ∧
        s'.arguments = (s.arguments.set index (g.written point)).modify (index + 1)
          Argument.opposite)

/-- A program of which one statement may have been touched. -/
structure Program.Confined (p p' : Program α) (a : Address) (g : Grip α) (point : Vec α) :
    Prop where
  /-- There are as many phases, with the same methods and durations and as many statements. -/
  phases : p'.phases.map (fun ph => (ph.method, ph.duration, ph.statements.length))
    = p.phases.map fun ph => (ph.method, ph.duration, ph.statements.length)
  /-- Statements at other addresses are the same. -/
  elsewhere : ∀ b : Address, ¬ (b.phase = a.phase ∧ b.statement = a.statement) →
    p'.statementAt? b = p.statementAt? b
  /-- The statement at the address is the same, or one of its arguments was written. -/
  here : ∀ s, p.statementAt? a = some s →
    ∃ s', p'.statementAt? a = some s' ∧ (s' = s ∨ s.Touched s' g point)

/-- Setting a radius sets the radius of the turn, and may turn the angle. -/
theorem Statement.setRadius?_arguments (s s' : Statement α) (radius : α) (changesSide : Bool)
    (h : s.setRadius? radius changesSide = some s') : ∃ index, s.roles[index]? = some .radius ∧
      (s'.arguments = s.arguments.set index (.number radius) ∨ s.roles[index + 1]? = some .angle ∧
        s'.arguments
          = (s.arguments.set index (.number radius)).modify (index + 1) Argument.opposite) := by
  cases s with
  | arcContinue _ _ =>
      cases h
      cases changesSide with
      | false => exact ⟨0, rfl, Or.inl rfl⟩
      | true => exact ⟨0, rfl, Or.inr ⟨rfl, rfl⟩⟩
  | _ => cases h

namespace Grip

variable (g : Grip α) (s s' : Statement α) (argument : Int) (point : Vec α)

/-- A drag writes an argument of its role. -/
theorem drag?_touched (h : g.drag? s argument point = some s') : s.Touched s' g point := by
  -- Kind and chords are its outline; the argument is a matter of the setter.
  have houtline := g.drag?_outline s s' argument point h
  refine ⟨congrArg Prod.fst houtline, congrArg Prod.snd houtline, ?_⟩
  cases g with
  | free position =>
      rcases s.setPoint?_arguments s' argument point h with ⟨index, hrole, harguments⟩
      exact ⟨index, hrole, Or.inl harguments⟩
  | ray anchor direction length =>
      rcases s.setLength?_arguments s' _ h with ⟨index, hrole, harguments⟩
      exact ⟨index, hrole, Or.inl harguments⟩
  | onArc center radius baseAngle angle keepsSign =>
      rcases s.setAngle?_arguments s' _ h with ⟨index, hrole, harguments⟩
      exact ⟨index, hrole, Or.inl harguments⟩
  | radius start direction counterClockwise radius =>
      -- Only this setter may write a second argument, which is the angle behind.
      rcases s.setRadius?_arguments s' _ _ h with ⟨index, hrole, hkept | hturned⟩
      · exact ⟨index, hrole, Or.inl hkept⟩
      · exact ⟨index, hrole, Or.inr ⟨rfl, hturned⟩⟩

/-- A drag of a statement without an argument of the role is refused. -/
theorem drag?_eq_none_of_role (h : g.role ∉ s.roles) : g.drag? s argument point = none := by
  cases hdrag : g.drag? s argument point with
  | none => rfl
  | some s' =>
      rcases (g.drag?_touched s s' argument point hdrag).arguments with ⟨index, hrole, -⟩
      exact absurd (List.mem_of_getElem? hrole) h

end Grip

variable (p : Program α) (h : Handle α) (point : Vec α)

/-- An edit keeps the statements at all addresses but the one of the handle. -/
theorem statementAt?_change_of_not (b : Address)
    (hb : ¬ (b.phase = h.address.phase ∧ b.statement = h.address.statement)) :
    (p.change h point).statementAt? b = p.statementAt? b := by
  rcases change_eq p h point with hsame | ⟨site, s, s', rfl, haddress, -, hchange⟩
  · rw [hsame]
  · rw [haddress] at hb
    rw [hchange]
    exact site.statementAt?_fill_of_not s s' b hb

/-- An edit is confined to its own argument. All phases keep their methods, durations and numbers
    of statements, other statements are the same, and the statement at the address keeps its kind
    and its chords and differs in one argument at most, which is of the role of the grip and is
    what the drag writes; behind a radius the angle may change its sign. If the address names no
    statement, or one that has no argument of the role, then nothing changes. -/
theorem change_confined :
    p.Confined (p.change h point) h.address h.grip point ∧
    (¬ h.address.Within p → p.change h point = p) ∧
    ∀ s, p.statementAt? h.address = some s → h.grip.role ∉ s.roles → p.change h point = p := by
  refine ⟨⟨?_, statementAt?_change_of_not p h point, ?_⟩, ?_, ?_⟩
  · -- The outline has all of it and the kinds of the statements besides.
    have houtline := congrArg (List.map fun entry => (entry.1, entry.2.1, entry.2.2.length))
      (outline_change p h point)
    simp only [Program.outline, List.map_map, Function.comp_def, List.length_map] at houtline
    exact houtline
  · intro s hs
    rcases change_eq p h point with hsame | ⟨site, t, t', rfl, haddress, hdrag, hchange⟩
    · rw [hsame]
      exact ⟨s, hs, Or.inl rfl⟩
    · rw [haddress, site.statementAt?_fill, Option.some.injEq] at hs
      -- At a site the old statement and the new one are there to be compared.
      rw [hchange, haddress, site.statementAt?_fill, ← hs]
      exact ⟨t', rfl, Or.inr (h.grip.drag?_touched t t' _ point hdrag)⟩
  · intro hout
    -- An address that names no statement is refused before the drag.
    have hnone : p.statementAt? h.address = none := by
      rw [Address.within_iff, Option.not_isSome_iff_eq_none] at hout
      exact hout
    rcases exists_edit_error p h point hnone with ⟨cause, hedit⟩
    rw [Program.change, hedit]
  · intro s hs hrole
    -- A statement without an argument of the role refuses the drag itself.
    rcases exists_site_of_statementAt? p h.address s hs with ⟨site, argument, rfl, haddress⟩
    rw [Program.change, site.edit_fill s h point argument haddress,
      h.grip.drag?_eq_none_of_role s argument point hrole]

end Scalars

/-- The center of a turn behind a line, dragged by its own handle, by one that counts phases from
    the end, and by one that names the line. -/
theorem change_confined_lineAndTurn :
    let p : Program Float := ⟨[⟨.uniform, 1, [.line ⟨1, 2⟩, .arcContinue 2 1]⟩]⟩
    let g : Grip Float := .radius ⟨1, 2⟩ ⟨0, 1⟩ true 2
    let h : Handle Float := ⟨⟨0, 1, 0⟩, .arc, .arc, g⟩
    let stray : Handle Float := ⟨⟨-1, 1, 0⟩, .arc, .arc, g⟩
    let misplaced : Handle Float := ⟨⟨0, 0, 0⟩, .arc, .arc, g⟩
    (p.change h ⟨3, 4⟩).statementAt? ⟨0, 0, 0⟩ = some (.line ⟨1, 2⟩) ∧
      p.statementAt? ⟨0, 1, 0⟩ = some (.arcContinue 2 1) ∧
      (∃ s', (p.change h ⟨3, 4⟩).statementAt? ⟨0, 1, 0⟩ = some s' ∧
        (s' = .arcContinue 2 1 ∨ (Statement.arcContinue 2 1).Touched s' g ⟨3, 4⟩)) ∧
      ¬ stray.address.Within p ∧ p.change stray ⟨3, 4⟩ = p ∧
      g.role ∉ (Statement.line (⟨1, 2⟩ : Vec Float)).roles ∧ p.change misplaced ⟨3, 4⟩ = p := by
  intro p g h stray misplaced
  -- The stray handle counts its phase from the end.
  have hout : ¬ stray.address.Within p := fun hwithin => absurd hwithin.phase.1 (by decide)
  have hrole : g.role ∉ (Statement.line (⟨1, 2⟩ : Vec Float)).roles := by decide
  rcases change_confined p h ⟨3, 4⟩ with ⟨hconfined, -, -⟩
  exact ⟨hconfined.elsewhere ⟨0, 0, 0⟩ (by decide), rfl, hconfined.here _ rfl, hout,
    (change_confined p stray ⟨3, 4⟩).2.1 hout, hrole,
    (change_confined p misplaced ⟨3, 4⟩).2.2 _ rfl hrole⟩

end PlanarMotion
