import PlanarMotion.Handle.Drag
import PlanarMotion.Handle.Projection

/-!
# Where a Handle Sits

A handle addresses a statement by two indices and is itself found by a third, its place in
the list of all handles. An edit changes one statement and then everything is drawn again,
so to speak of the same handle afterwards the three have to be kept in step.

A `Site` is a program with one statement taken out. What comes before the statement is part
of the site, and with it the cursor that the statement finds and the number of handles in
front of its own. Putting in another statement changes neither. So the handles of whatever
is put in start at the same place, and if there are as many as before, every one of them is
where the old one was.

What comes behind the statement does change, since the cursor that it leaves may. All that is
known of that part here is that its handles have other addresses.

## Main definitions

* `phasesCursor`: The cursor behind several phases.
* `Site`: A program with one statement taken out.
* `Site.fill`: The program with a statement put in.
* `Site.cursor`, `Site.address`, `Site.earlier`: What a site knows of the statement: the
  cursor in front of it, its address and the handles before its own.
* `Address.InFront`: The order of statements.
* `Program.handlesAt`: The handles of the statement at an address.
* `Program.statementAt?`, `Program.cursorAt?`: The statement at an address, and the cursor in
  front of it.

## Theorems

* `Statement.address_handles`: The handles of a statement differ by the argument alone.
* `statementHandles_append`, `phaseHandles_append`: Handles are made part by part.
* `Site.handles_fill`: The handles of a filled site are the earlier ones, those of the
  statement and the later ones.
* `mem_statementHandles`, `mem_phaseHandles`: Handles have the addresses of their statements.
* `Site.inFront_of_mem_earlier`, `Site.inFront_of_mem_later`: The earlier ones are of statements in
  front, and the later ones of statements behind.
* `Site.handlesAt_fill`, `Site.filter_inFront_handles_fill`: So those of the statement can be told
  from the others, and those in front from the rest.
* `exists_site`, `exists_site_of_mem`, `exists_site_of_statementAt?`: Every handle sits somewhere,
  and every address of a statement is the address of a site.
* `Site.edit_fill`, `Site.change_fill`: An edit at a site fills it with the dragged statement.
-/

namespace PlanarMotion

variable {α : Type} [Scalar α]

/-- The statement at an address. -/
def Program.statementAt? (p : Program α) (a : Address) : Option (Statement α) :=
  (elementAt? p.phases a.phase).bind fun ph => elementAt? ph.statements a.statement

/-- An address is one of a statement in front of the one at another address, in the same phase or
    in an earlier one. -/
def Address.InFront (a b : Address) : Prop :=
  a.phase < b.phase ∨ a.phase = b.phase ∧ a.statement < b.statement

instance (a b : Address) : Decidable (a.InFront b) :=
  inferInstanceAs (Decidable (_ ∨ _))

/-- A statement is not in front of itself. -/
theorem Address.not_inFront_of_eq (a b : Address)
    (h : a.phase = b.phase ∧ a.statement = b.statement) : ¬ a.InFront b := by
  unfold InFront
  omega

theorem Address.not_inFront_of_inFront (a b : Address) (h : b.InFront a) : ¬ a.InFront b := by
  unfold InFront at h ⊢
  omega

/-- A handle stands for an argument of the statement at an address. -/
def Handle.IsAt (h : Handle α) (a : Address) : Prop :=
  h.address.phase = a.phase ∧ h.address.statement = a.statement

instance (h : Handle α) (a : Address) : Decidable (h.IsAt a) :=
  inferInstanceAs (Decidable (_ ∧ _))

/-- The handles of the statement at an address, whatever argument they stand for. -/
def Program.handlesAt (p : Program α) (a : Address) : List (Handle α) :=
  p.handles.filter fun h => decide (h.IsAt a)

/-- The cursor behind several phases. -/
def phasesCursor (cursor : Pose α) (phases : List (Phase α)) : Pose α :=
  phases.foldl (fun c p => ((PathBuilder.ofCursor c).drawAll p.statements).cursor) cursor

/-- The cursor in front of the statement at an address. -/
def Program.cursorAt? (p : Program α) (a : Address) : Option (Pose α) :=
  let opening := PathBuilder.ofCursor (phasesCursor Pose.origin (p.phases.take a.phase.toNat))
  (elementAt? p.phases a.phase).bind fun ph => (elementAt? ph.statements a.statement).map fun _ =>
    (opening.drawAll (ph.statements.take a.statement.toNat)).cursor

/-- The handles of a statement differ in their addresses by the argument alone. -/
theorem Statement.address_handles (s : Statement α) (cursor : Pose α) (address : Address) :
    ∀ h ∈ s.handles cursor address,
      h.address = { address with argument := h.address.argument } := by
  cases s <;> simp [Statement.handles]

/-- The handles of the statements behind start at the cursor and the index that those in front
    leave. -/
theorem statementHandles_append (phase index : Nat) (b : PathBuilder α)
    (front rest : List (Statement α)) :
    statementHandles phase index b (front ++ rest) = statementHandles phase index b front
      ++ statementHandles phase (index + front.length) (b.drawAll front) rest := by
  induction front generalizing index b with
  | nil => rfl
  | cons s front ih =>
      have hindex : index + (s :: front).length = index + 1 + front.length := by
        rw [List.length_cons]
        omega
      rw [List.cons_append, statementHandles, statementHandles, ih, List.append_assoc, hindex]
      rfl

/-- So do the handles of the phases behind. -/
theorem phaseHandles_append (index : Nat) (cursor : Pose α) (front rest : List (Phase α)) :
    phaseHandles index cursor (front ++ rest) = phaseHandles index cursor front
      ++ phaseHandles (index + front.length) (phasesCursor cursor front) rest := by
  induction front generalizing index cursor with
  | nil => rfl
  | cons p front ih =>
      have hindex : index + (p :: front).length = index + 1 + front.length := by
        rw [List.length_cons]
        omega
      rw [List.cons_append, phaseHandles, phaseHandles]
      simp only [ih, List.append_assoc, hindex]
      rfl

/-- The handles of statements have the phase's address, and indices of these statements. -/
theorem mem_statementHandles (phase index : Nat) (b : PathBuilder α) (ss : List (Statement α))
    (h : Handle α) (hmem : h ∈ statementHandles phase index b ss) :
    h.address.phase = phase ∧ index ≤ h.address.statement ∧
      h.address.statement < index + ss.length := by
  induction ss generalizing index b with
  | nil => exact nomatch hmem
  | cons s rest ih =>
      rw [List.length_cons]
      rcases List.mem_append.mp hmem with hown | hrest
      -- The first statement's own handles have the index itself.
      · have haddress := s.address_handles _ _ h hown
        rw [haddress]
        exact ⟨rfl, by simp only []; omega, by simp only []; omega⟩
      · have hbounds := ih (index + 1) _ hrest
        exact ⟨hbounds.1, by omega, by omega⟩

/-- The handles of phases have indices of these phases. -/
theorem mem_phaseHandles (index : Nat) (cursor : Pose α) (ps : List (Phase α)) (h : Handle α)
    (hmem : h ∈ phaseHandles index cursor ps) :
    index ≤ h.address.phase ∧ h.address.phase < index + ps.length := by
  induction ps generalizing index cursor with
  | nil => exact nomatch hmem
  | cons p rest ih =>
      rw [List.length_cons]
      rcases List.mem_append.mp hmem with hown | hrest
      · have hphase := (mem_statementHandles index 0 _ _ h hown).1
        omega
      · have hbounds := ih (index + 1) _ hrest
        omega

-- By induction on the statements: the handle is one of the first statement's own, or it has an
-- earlier place among those of the rest.
theorem exists_statement (phase index k : Nat) (b : PathBuilder α) (ss : List (Statement α))
    (h : Handle α) (hk : (statementHandles phase index b ss)[k]? = some h) :
    ∃ before s after j, ss = before ++ s :: after ∧
      k = (statementHandles phase index b before).length + j ∧
      (s.handles (b.drawAll before).cursor ⟨phase, (index + before.length : Nat), 0⟩)[j]?
        = some h := by
  induction ss generalizing index k b with
  | nil => exact absurd hk (by simp [statementHandles])
  | cons s rest ih =>
      rw [statementHandles] at hk
      by_cases hlt : k < (s.handles b.cursor ⟨phase, index, 0⟩).length
      · rw [List.getElem?_append_left hlt] at hk
        -- No statement is in front, so the place is one among the own handles.
        exact ⟨[], s, rest, k, rfl, (Nat.zero_add k).symm, hk⟩
      · rw [List.getElem?_append_right (by omega)] at hk
        -- The own handles are counted off, and the rest is looked up in the rest.
        rcases ih _ _ _ hk with ⟨before, s', after, j, rfl, hplace, hj⟩
        have hindex : index + 1 + before.length = index + (s :: before).length := by
          rw [List.length_cons]
          omega
        rw [hindex] at hj
        refine ⟨s :: before, s', after, j, rfl, ?_, hj⟩
        rw [statementHandles, List.length_append]
        omega

/-- A handle of several phases is one of some phase, at a place of its own there. -/
theorem exists_phase (index k : Nat) (cursor : Pose α) (ps : List (Phase α)) (h : Handle α)
    (hk : (phaseHandles index cursor ps)[k]? = some h) :
    ∃ front p back j, ps = front ++ p :: back ∧
      k = (phaseHandles index cursor front).length + j ∧
      (statementHandles (index + front.length) 0
        (PathBuilder.ofCursor (phasesCursor cursor front)) p.statements)[j]? = some h := by
  induction ps generalizing index k cursor with
  | nil => exact absurd hk (by simp [phaseHandles])
  | cons p rest ih =>
      rw [phaseHandles] at hk
      by_cases hlt : k < (statementHandles index 0 (PathBuilder.ofCursor cursor)
          p.statements).length
      · rw [List.getElem?_append_left hlt] at hk
        exact ⟨[], p, rest, k, rfl, (Nat.zero_add k).symm, hk⟩
      · rw [List.getElem?_append_right (by omega)] at hk
        rcases ih _ _ _ hk with ⟨front, q, back, j, rfl, hplace, hj⟩
        have hindex : index + 1 + front.length = index + (p :: front).length := by
          rw [List.length_cons]
          omega
        rw [hindex] at hj
        refine ⟨p :: front, q, back, j, rfl, ?_, hj⟩
        rw [phaseHandles, List.length_append]
        omega

/-- A program with one statement taken out. -/
structure Site (α : Type) where
  /-- The phases in front of the one that lacks a statement. -/
  front : List (Phase α)
  /-- How that phase spends its time. -/
  method : Method
  /-- How long it takes. -/
  duration : α
  /-- Its statements in front of the missing one. -/
  before : List (Statement α)
  /-- Its statements behind the missing one. -/
  after : List (Statement α)
  /-- The phases behind it. -/
  back : List (Phase α)

theorem elementAt?_middle {β : Type} (front back : List β) (x : β) :
    elementAt? (front ++ x :: back) (front.length : Nat) = some x := by
  rw [elementAt?_natCast, List.getElem?_append_right (Nat.le_refl _), Nat.sub_self,
    List.getElem?_cons_zero]

/-- An index that finds something splits the list there. -/
theorem exists_split {β : Type} (xs : List β) (index : Int) (x : β)
    (h : elementAt? xs index = some x) :
    ∃ front back, xs = front ++ x :: back ∧ index = (front.length : Nat) := by
  unfold elementAt? at h
  by_cases hneg : index < 0
  · rw [if_pos hneg] at h
    exact nomatch h
  · rw [if_neg hneg, List.getElem?_eq_some_iff] at h
    rcases h with ⟨hlt, hget⟩
    refine ⟨xs.take index.toNat, xs.drop (index.toNat + 1), ?_, ?_⟩
    · rw [← hget, List.getElem_cons_drop, List.take_append_drop]
    · rw [List.length_take]
      omega

theorem modify_middle {β : Type} (f : β → β) (front back : List β) (x : β) :
    (front ++ x :: back).modify front.length f = front ++ f x :: back := by
  induction front with
  | nil => rfl
  | cons y front ih =>
      rw [List.cons_append, List.length_cons, List.modify_succ_cons, ih, List.cons_append]

namespace Site

/-- The phase with a statement put in. -/
def phase (site : Site α) (s : Statement α) : Phase α :=
  ⟨site.method, site.duration, site.before ++ s :: site.after⟩

/-- The program with a statement put in. -/
def fill (site : Site α) (s : Statement α) : Program α :=
  ⟨site.front ++ site.phase s :: site.back⟩

/-- The address of an argument of the statement that is put in. -/
def address (site : Site α) (argument : Int) : Address :=
  ⟨site.front.length, site.before.length, argument⟩

/-- The builder with which the phase of the site starts. -/
def opening (site : Site α) : PathBuilder α :=
  PathBuilder.ofCursor (phasesCursor Pose.origin site.front)

/-- The cursor in front of the statement that is put in. -/
def cursor (site : Site α) : Pose α :=
  (site.opening.drawAll site.before).cursor

/-- The handles before those of the statement that is put in. -/
def earlier (site : Site α) : List (Handle α) :=
  phaseHandles 0 Pose.origin site.front
    ++ statementHandles site.front.length 0 site.opening site.before

/-- The handles behind those of the statement that is put in. They depend on it, through the
    cursor that it leaves. -/
def later (site : Site α) (s : Statement α) : List (Handle α) :=
  statementHandles site.front.length (site.before.length + 1)
      ((site.opening.drawAll site.before).draw s) site.after
    ++ phaseHandles (site.front.length + 1)
      (site.opening.drawAll (site.phase s).statements).cursor site.back

/-- The handles of a program are those in front of the site, those of the statement there, and those
    behind it. -/
theorem handles_fill (site : Site α) (s : Statement α) :
    (site.fill s).handles
      = site.earlier ++ (s.handles site.cursor (site.address 0) ++ site.later s) := by
  have hstatements : statementHandles site.front.length 0 site.opening (site.phase s).statements
      = statementHandles site.front.length 0 site.opening site.before
        ++ (s.handles site.cursor (site.address 0) ++ statementHandles site.front.length
          (site.before.length + 1) ((site.opening.drawAll site.before).draw s) site.after) := by
    rw [phase, statementHandles_append, statementHandles, Nat.zero_add]
    rfl
  rw [Program.handles, fill, phaseHandles_append, phaseHandles, Nat.zero_add, ← opening,
    hstatements, earlier, later, List.append_assoc, List.append_assoc, List.append_assoc]

theorem getElem?_handles_fill (site : Site α) (s : Statement α) (j : Nat)
    (hj : j < (s.handles site.cursor (site.address 0)).length) :
    (site.fill s).handles[site.earlier.length + j]?
      = (s.handles site.cursor (site.address 0))[j]? := by
  rw [site.handles_fill s, List.getElem?_append_right (Nat.le_add_right _ _),
    Nat.add_sub_cancel_left, List.getElem?_append_left hj]

/-- The handles before those of the statement are of statements in front of it. -/
theorem inFront_of_mem_earlier (site : Site α) (argument : Int) (h : Handle α)
    (hmem : h ∈ site.earlier) : h.address.InFront (site.address argument) := by
  unfold Address.InFront
  simp only [address]
  rcases List.mem_append.mp hmem with hmem | hmem
  · have hbounds := mem_phaseHandles 0 _ _ h hmem
    omega
  · have hbounds := mem_statementHandles _ 0 _ _ h hmem
    omega

/-- The handles behind them are of statements behind it. -/
theorem inFront_of_mem_later (site : Site α) (s : Statement α) (argument : Int) (h : Handle α)
    (hmem : h ∈ site.later s) : (site.address argument).InFront h.address := by
  unfold Address.InFront
  simp only [address]
  rcases List.mem_append.mp hmem with hmem | hmem
  · have hbounds := mem_statementHandles _ _ _ _ h hmem
    omega
  · have hbounds := mem_phaseHandles _ _ _ h hmem
    omega

theorem isAt_of_mem_handles (site : Site α) (s : Statement α) (argument : Int) (h : Handle α)
    (hmem : h ∈ s.handles site.cursor (site.address 0)) : h.IsAt (site.address argument) := by
  rw [Handle.IsAt, s.address_handles _ _ h hmem]
  exact ⟨rfl, rfl⟩

/-- Only the handles of the statement have its address, up to the argument. -/
theorem handlesAt_fill (site : Site α) (s : Statement α) (argument : Int) :
    (site.fill s).handlesAt (site.address argument)
      = s.handles site.cursor (site.address 0) := by
  -- Of the three parts the filter keeps the middle one whole and nothing of the others.
  have hearlier : ∀ h ∈ site.earlier, ¬ decide (h.IsAt (site.address argument)) = true := by
    intro h hmem hat
    exact Address.not_inFront_of_eq _ _ (of_decide_eq_true hat)
      (site.inFront_of_mem_earlier argument h hmem)
  have hlater : ∀ h ∈ site.later s, ¬ decide (h.IsAt (site.address argument)) = true := by
    intro h hmem hat
    rcases of_decide_eq_true hat with ⟨hphase, hstatement⟩
    exact Address.not_inFront_of_eq _ _ ⟨hphase.symm, hstatement.symm⟩
      (site.inFront_of_mem_later s argument h hmem)
  have hown : ∀ h ∈ s.handles site.cursor (site.address 0),
      decide (h.IsAt (site.address argument)) = true :=
    fun h hmem => decide_eq_true (site.isAt_of_mem_handles s argument h hmem)
  rw [Program.handlesAt, site.handles_fill, List.filter_append, List.filter_append,
    List.filter_eq_nil_iff.mpr hearlier, List.filter_eq_nil_iff.mpr hlater,
    List.filter_eq_self.mpr hown, List.nil_append, List.append_nil]

/-- The handles in front of the statement are the earlier ones. -/
theorem filter_inFront_handles_fill (site : Site α) (s : Statement α) (argument : Int) :
    ((site.fill s).handles.filter fun h => decide (h.address.InFront (site.address argument)))
      = site.earlier := by
  -- Here it keeps the first part.
  have hearlier : ∀ h ∈ site.earlier,
      decide (h.address.InFront (site.address argument)) = true :=
    fun h hmem => decide_eq_true (site.inFront_of_mem_earlier argument h hmem)
  have hown : ∀ h ∈ s.handles site.cursor (site.address 0),
      ¬ decide (h.address.InFront (site.address argument)) = true := by
    intro h hmem hfront
    exact Address.not_inFront_of_eq _ _ (site.isAt_of_mem_handles s argument h hmem)
      (of_decide_eq_true hfront)
  have hlater : ∀ h ∈ site.later s,
      ¬ decide (h.address.InFront (site.address argument)) = true := by
    intro h hmem hfront
    exact Address.not_inFront_of_inFront _ _ (site.inFront_of_mem_later s argument h hmem)
      (of_decide_eq_true hfront)
  rw [site.handles_fill, List.filter_append, List.filter_append,
    List.filter_eq_self.mpr hearlier, List.filter_eq_nil_iff.mpr hown,
    List.filter_eq_nil_iff.mpr hlater, List.append_nil, List.append_nil]

omit [Scalar α] in
theorem statementAt?_fill (site : Site α) (s : Statement α) (argument : Int) :
    (site.fill s).statementAt? (site.address argument) = some s := by
  rw [Program.statementAt?, address, fill, elementAt?_middle, Option.bind_some, phase,
    elementAt?_middle]

omit [Scalar α] in
/-- Another statement in the same site makes another program. -/
theorem fill_inj_iff (site : Site α) (s s' : Statement α) :
    site.fill s' = site.fill s ↔ s' = s := by
  constructor
  · intro hsame
    -- Equal programs have the same statement at the site.
    have hs := site.statementAt?_fill s' 0
    rw [hsame, site.statementAt?_fill, Option.some.injEq] at hs
    exact hs.symm
  · exact congrArg site.fill

/-- The cursor in front of a site does not depend on what is put in. -/
theorem cursorAt?_fill (site : Site α) (s : Statement α) (argument : Int) :
    (site.fill s).cursorAt? (site.address argument) = some site.cursor := by
  -- What is taken up to the indices of the site is what stands in front of it.
  have hphases : (site.fill s).phases.take site.front.length = site.front := by
    rw [fill, List.take_left]
  have hstatements : (site.phase s).statements.take site.before.length = site.before := by
    rw [phase, List.take_left]
  have hphase : elementAt? (site.fill s).phases site.front.length = some (site.phase s) :=
    elementAt?_middle site.front site.back (site.phase s)
  have hstatement : elementAt? (site.phase s).statements site.before.length = some s :=
    elementAt?_middle site.before site.after s
  simp only [Program.cursorAt?, address, Int.toNat_natCast, hphases, hphase, Option.bind_some,
    hstatement, hstatements, Option.map_some, cursor, opening]

/-- An edit at a site fills it with the dragged statement. -/
theorem edit_fill (site : Site α) (s : Statement α) (h : Handle α) (point : Vec α)
    (argument : Int) (haddress : h.address = site.address argument) :
    (site.fill s).edit h point = match h.grip.drag? s argument point with
      | none => .error (.mismatch h.grip.kind s.kind h.address)
      | some s' => .ok (site.fill s') := by
  -- Both indices are found, and replacing at them is filling the site anew.
  have hphase : elementAt? (site.fill s).phases h.address.phase = some (site.phase s) := by
    rw [haddress]
    exact elementAt?_middle site.front site.back (site.phase s)
  have hstatement : elementAt? (site.phase s).statements h.address.statement = some s := by
    rw [haddress]
    exact elementAt?_middle site.before site.after s
  have hset : ∀ s', (site.fill s).setStatement h.address.phase.toNat h.address.statement.toNat s'
      = site.fill s' := by
    intro s'
    rw [haddress, address, Program.setStatement, fill, Int.toNat_natCast, Int.toNat_natCast,
      modify_middle, fill, phase, phase, List.set_append_right _ _ (Nat.le_refl _), Nat.sub_self,
      List.set_cons_zero]
  have hargument : h.address.argument = argument := by rw [haddress, address]
  unfold Program.edit
  simp only [hphase, hstatement, hargument]
  cases h.grip.drag? s argument point with
  | none => rfl
  | some s' => simp only [hset]

theorem change_fill (site : Site α) (s s' : Statement α) (h : Handle α) (point : Vec α)
    (argument : Int) (haddress : h.address = site.address argument)
    (hdrag : h.grip.drag? s argument point = some s') :
    (site.fill s).change h point = site.fill s' := by
  rw [Program.change, site.edit_fill s h point argument haddress, hdrag]

end Site

/-- Every handle sits somewhere. -/
theorem exists_site (p : Program α) (k : Nat) (h : Handle α) (hk : p.handles[k]? = some h) :
    ∃ (site : Site α) (s : Statement α) (j : Nat), p = site.fill s ∧
      k = site.earlier.length + j ∧ (s.handles site.cursor (site.address 0))[j]? = some h := by
  rcases exists_phase 0 k Pose.origin p.phases h hk with
    ⟨front, ph, back, i, hphases, hi, hstatements⟩
  rcases exists_statement _ _ i _ ph.statements h hstatements with
    ⟨before, s, after, j, hsplit, hj, hhandle⟩
  -- What was around the statement is the site.
  refine ⟨⟨front, ph.method, ph.duration, before, after, back⟩, s, j, ?_, ?_, ?_⟩
  · rw [Site.fill, Site.phase, ← hsplit, ← hphases]
  · rw [Site.earlier, List.length_append]
    rw [Nat.zero_add] at hj
    rw [hi, hj, Nat.add_assoc]
    rfl
  · rw [Nat.zero_add, Nat.zero_add] at hhandle
    exact hhandle

/-- A handle of a program is one of a statement at its site. -/
theorem exists_site_of_mem (p : Program α) (h : Handle α) (hmem : h ∈ p.handles) :
    ∃ (site : Site α) (s : Statement α), p = site.fill s ∧
      h.address = site.address h.address.argument ∧
      h ∈ s.handles site.cursor (site.address 0) := by
  rcases List.mem_iff_getElem?.mp hmem with ⟨k, hk⟩
  rcases exists_site p k h hk with ⟨site, s, j, rfl, -, hj⟩
  have hown := List.mem_iff_getElem?.mpr ⟨j, hj⟩
  exact ⟨site, s, rfl, s.address_handles site.cursor (site.address 0) h hown, hown⟩

omit [Scalar α] in
/-- An address that finds a statement is the address of a site. -/
theorem exists_site_of_statementAt? (p : Program α) (a : Address) (s : Statement α)
    (hs : p.statementAt? a = some s) :
    ∃ (site : Site α) (argument : Int), p = site.fill s ∧ a = site.address argument := by
  rcases Option.bind_eq_some_iff.mp hs with ⟨ph, hphase, hstatement⟩
  -- Both indices split their lists, and the parts make the site.
  rcases exists_split p.phases a.phase ph hphase with ⟨front, back, hphases, hfront⟩
  rcases exists_split ph.statements a.statement s hstatement with ⟨before, after, hsplit, hbefore⟩
  refine ⟨⟨front, ph.method, ph.duration, before, after, back⟩, a.argument, ?_, ?_⟩
  · rw [Site.fill, Site.phase, ← hsplit, ← hphases]
  · rw [Site.address, ← hfront, ← hbefore]

end PlanarMotion
