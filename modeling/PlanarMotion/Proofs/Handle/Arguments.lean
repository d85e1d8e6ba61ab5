import PlanarMotion.Proofs.Handle.Site

/-!
# The Arguments of Statements

A statement is written with points and numbers, and an address counts them from zero. So an
address can be looked up in the program itself, and what a handle is for does not have to be
told from the handle: it is the argument at its address. The count of chords of a curve is not
among the arguments, since no handle changes it.

Together with the outline of a program its arguments are all there is to it. So an edit is
described completely by its outline and by what is found at every address, and that is how the
edits of a site are described here: what is put in decides about its own addresses and about no
others.

## Main definitions

* `Argument`, `Statement.arguments`: What a statement is written with.
* `Program.argumentAt?`: The argument at an address.

## Theorems

* `elementAt?_set_self`, `elementAt?_set_of_ne`: Integer indices and replacing.
* `Statement.map_address_handles`: A statement has one handle for each argument, in order.
* `Site.argumentAt?_fill`, `Site.argumentAt?_fill_of_not`: The arguments of a filled site.
* `exists_mem_handles_iff`: An address has a handle exactly if it has an argument.
-/

namespace PlanarMotion

/-- What a statement is written with. -/
inductive Argument (α : Type) where
  /-- A point. -/
  | point (place : Vec α)
  /-- A length, a radius or an angle. -/
  | number (x : α)
  deriving DecidableEq, Repr

/-- The arguments of a statement in the order in which they are written. -/
def Statement.arguments {α : Type} : Statement α → List (Argument α)
  | .start point => [.point point]
  | .line stop => [.point stop]
  | .lineContinue length => [.number length]
  | .arc center angle => [.point center, .number angle]
  | .arcContinue radius angle => [.number radius, .number angle]
  | .bezier c1 c2 stop _ => [.point c1, .point c2, .point stop]
  | .bezierContinue c1Offset c2 stop _ => [.number c1Offset, .point c2, .point stop]

/-- The argument at an address. -/
def Program.argumentAt? {α : Type} (p : Program α) (a : Address) : Option (Argument α) :=
  (p.statementAt? a).bind fun s => elementAt? s.arguments a.argument

section Elements

variable {β : Type}

theorem elementAt?_set_self (xs : List β) (index : Nat) (x : β) (h : index < xs.length) :
    elementAt? (xs.set index x) index = some x := by
  rw [elementAt?_natCast, List.getElem?_set_self h]

theorem elementAt?_set_of_ne (xs : List β) (index : Nat) (x : β) (other : Int)
    (h : other ≠ index) : elementAt? (xs.set index x) other = elementAt? xs other := by
  unfold elementAt?
  by_cases hneg : other < 0
  · rw [if_pos hneg, if_pos hneg]
  · rw [if_neg hneg, if_neg hneg, List.getElem?_set_ne (by omega)]

/-- Only the indices that count from zero and stay within a list find anything. -/
theorem isSome_elementAt?_iff (xs : List β) (index : Int) :
    (elementAt? xs index).isSome ↔ ∃ i < xs.length, index = (i : Nat) := by
  unfold elementAt?
  by_cases hneg : index < 0
  · rw [if_pos hneg]
    constructor
    · intro h
      cases h
    · rintro ⟨i, -, rfl⟩
      omega
  · rw [if_neg hneg, Option.isSome_iff_ne_none, ne_eq, List.getElem?_eq_none_iff, Nat.not_le]
    constructor
    · intro h
      exact ⟨index.toNat, h, by omega⟩
    · rintro ⟨i, hi, rfl⟩
      exact hi

/-- Lists that differ at one index alone. -/
theorem elementAt?_middle_of_ne (front back : List β) (x y : β) (index : Int)
    (h : index ≠ (front.length : Nat)) :
    elementAt? (front ++ x :: back) index = elementAt? (front ++ y :: back) index := by
  -- Putting in is setting at the index of the middle.
  have hset : front ++ x :: back = (front ++ y :: back).set front.length x := by
    rw [List.set_append_right _ _ (Nat.le_refl _), Nat.sub_self, List.set_cons_zero]
  rw [hset, elementAt?_set_of_ne _ _ _ _ h]

end Elements

variable {α : Type} [Scalar α]

/-- A statement has one handle for each argument, in order. -/
theorem Statement.map_address_handles (s : Statement α) (cursor : Pose α) (address : Address) :
    (s.handles cursor address).map (·.address)
      = (List.range s.arguments.length).map fun i => { address with argument := (i : Nat) } := by
  cases s <;> rfl

namespace Site

omit [Scalar α] in
theorem argumentAt?_fill (site : Site α) (s : Statement α) (argument : Int) :
    (site.fill s).argumentAt? (site.address argument) = elementAt? s.arguments argument := by
  rw [Program.argumentAt?, site.statementAt?_fill s argument, Option.bind_some, address]

omit [Scalar α] in
/-- Addresses of other statements do not see what is put in. -/
theorem statementAt?_fill_of_not (site : Site α) (s s' : Statement α) (a : Address)
    (h : ¬ (a.phase = (site.address 0).phase ∧ a.statement = (site.address 0).statement)) :
    (site.fill s').statementAt? a = (site.fill s).statementAt? a := by
  simp only [address] at h
  unfold Program.statementAt? fill
  by_cases hphase : a.phase = (site.front.length : Nat)
  · -- In the phase of the site the statement is another one.
    rw [hphase, elementAt?_middle, elementAt?_middle, Option.bind_some, Option.bind_some]
    exact elementAt?_middle_of_ne _ _ _ _ _ (fun hstatement => h ⟨hphase, hstatement⟩)
  -- In any other phase nothing differs.
  · rw [elementAt?_middle_of_ne _ _ (site.phase s') (site.phase s) _ hphase]

omit [Scalar α] in
theorem argumentAt?_fill_of_not (site : Site α) (s s' : Statement α) (a : Address)
    (h : ¬ (a.phase = (site.address 0).phase ∧ a.statement = (site.address 0).statement)) :
    (site.fill s').argumentAt? a = (site.fill s).argumentAt? a := by
  rw [Program.argumentAt?, site.statementAt?_fill_of_not s s' a h, ← Program.argumentAt?]

end Site

/-- An address has a handle exactly if it has an argument. -/
theorem exists_mem_handles_iff (p : Program α) (a : Address) :
    (∃ h ∈ p.handles, h.address = a) ↔ (p.argumentAt? a).isSome := by
  constructor
  · rintro ⟨h, hmem, rfl⟩
    rcases exists_site_of_mem p h hmem with ⟨site, s, rfl, -, hown⟩
    -- The handle is one of its statement, which has as many as arguments.
    have haddress : h.address ∈ (s.handles site.cursor (site.address 0)).map (·.address) :=
      List.mem_map_of_mem hown
    rw [s.map_address_handles, List.mem_map] at haddress
    rcases haddress with ⟨i, hi, haddress⟩
    have hsite : h.address = site.address (i : Nat) := haddress.symm
    rw [hsite, site.argumentAt?_fill, isSome_elementAt?_iff]
    exact ⟨i, List.mem_range.mp hi, rfl⟩
  · intro hsome
    rw [Program.argumentAt?, Option.isSome_bind, Option.any_eq_true] at hsome
    rcases hsome with ⟨s, hs, helement⟩
    rcases exists_site_of_statementAt? p a s hs with ⟨site, argument, rfl, rfl⟩
    rcases (isSome_elementAt?_iff _ _).mp helement with ⟨i, hi, hargument⟩
    -- The other way, the argument has a handle at the site.
    have hmap : site.address (i : Nat)
        ∈ (s.handles site.cursor (site.address 0)).map (·.address) := by
      rw [s.map_address_handles]
      exact List.mem_map.mpr ⟨i, List.mem_range.mpr hi, rfl⟩
    rcases List.mem_map.mp hmap with ⟨h, hmem, haddress⟩
    refine ⟨h, ?_, ?_⟩
    · rw [site.handles_fill]
      exact List.mem_append_right _ (List.mem_append_left _ hmem)
    · rw [haddress, ← hargument]
      rfl

end PlanarMotion
