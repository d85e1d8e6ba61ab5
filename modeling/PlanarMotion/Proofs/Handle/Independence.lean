import PlanarMotion.Proofs.Plane.Reals
import PlanarMotion.Proofs.Handle.Roles

/-!
# Drags in Either Order

A handle carries all the geometry that its drag needs, so a drag asks the program for nothing but
the statement that it changes. Of two drags neither can therefore disturb what the other computes,
and it is only left to see where they write. Drags of two statements write to different places.
Two handles of one statement have different arguments, which are written apart from each other.

There is one exception. The center of a turn that goes straight on may be dragged to the other
side, and then the drag turns the sign of the angle as well, which is the argument of the end. If
the end is dragged first, then its new angle is turned; if it is dragged last, then the turned
angle is overwritten. So the order matters by a sign.

Nothing here computes with numbers, and the handles need not be made anew between the drags.

## Main definitions

* `Handle.dragged`: A statement after a drag of a handle.
* `Grip.turnsSide`: The center of a turn is dragged to the other side.
* `Handle.Upsets`: A drag that writes the argument of another handle as well.
* `Handle.Commutes`: Two drags of a statement may be done in either order.

## Theorems

* `statementAt?_change`: What an edit makes of each statement.
* `Program.ext_statementAt?`: A program is its outline and its statements.
* `change_comm_of_dragged`: It is enough to look at one statement.
* `Statement.commutes_handles`: Handles of one statement.
* `change_comm`: Handles of a program.
-/

namespace PlanarMotion

variable {α : Type} [Scalar α]

/-- A statement after a drag of a handle; one that the handle does not fit stays. -/
def Handle.dragged (h : Handle α) (point : Vec α) (s : Statement α) : Statement α :=
  (h.grip.drag? s h.address.argument point).getD s

/-- A drag of the center of a turn to the other side. -/
def Grip.turnsSide (g : Grip α) (point : Vec α) : Bool :=
  match g with
  | .radius start direction counterClockwise _ =>
    decide (0 ≤ signedRadius start direction point) != counterClockwise
  | _ => false

/-- A drag of the center of a turn to the other side, seen from the handle at the end of the same
    turn: it turns the angle that this handle is for. -/
structure Handle.Upsets (center other : Handle α) (point : Vec α) : Prop where
  /-- Both are handles of one statement. -/
  same : center.IsAt other.address
  /-- The center changes its side. -/
  turns : center.grip.turnsSide point = true
  /-- The other handle is for the angle. -/
  angle : other.grip.role = .angle

/-- Two drags of a statement may be done in either order, unless one upsets the other. -/
def Handle.Commutes (s : Statement α) (h₁ h₂ : Handle α) : Prop :=
  ∀ q₁ q₂, ¬ h₁.Upsets h₂ q₁ → ¬ h₂.Upsets h₁ q₂ →
    h₂.dragged q₂ (h₁.dragged q₁ s) = h₁.dragged q₁ (h₂.dragged q₂ s)

/-- What an edit makes of each statement. -/
theorem statementAt?_change (p : Program α) (h : Handle α) (point : Vec α) (b : Address) :
    (p.change h point).statementAt? b
      = (p.statementAt? b).map fun s => if h.IsAt b then h.dragged point s else s := by
  by_cases hat : h.IsAt b
  · simp only [if_pos hat]
    have hsame : ∀ r : Program α, r.statementAt? b = r.statementAt? h.address := by
      intro r
      rw [Program.statementAt?, Program.statementAt?, hat.1, hat.2]
    rw [hsame, hsame]
    cases hs : p.statementAt? h.address with
    | none =>
        -- There is no statement, and an edit brings none.
        rcases exists_edit_error p h point hs with ⟨cause, hedit⟩
        rw [Program.change, hedit, Option.map_none]
        exact hs
    | some s =>
        -- There is one, and the drag of the grip decides what becomes of it.
        rcases exists_site_of_statementAt? p h.address s hs with ⟨site, argument, rfl, haddress⟩
        have hargument : h.address.argument = argument := by rw [haddress, Site.address]
        rw [Option.map_some, Handle.dragged, hargument, Program.change,
          site.edit_fill s h point argument haddress]
        cases hdrag : h.grip.drag? s argument point with
        | none => exact hs
        | some s' =>
            rw [haddress]
            exact site.statementAt?_fill s' argument
  · have hnot : ¬ (b.phase = h.address.phase ∧ b.statement = h.address.statement) :=
      fun hsame => hat ⟨hsame.1.symm, hsame.2.symm⟩
    simp only [if_neg hat, Option.map_id']
    exact statementAt?_change_of_not p h point b hnot

omit [Scalar α] in
theorem Program.statementAt?_natCast (p : Program α) (i j : Nat) :
    p.statementAt? ⟨i, j, 0⟩ = p.phases[i]?.bind fun ph => ph.statements[j]? := by
  rw [statementAt?, elementAt?_natCast]
  simp only [elementAt?_natCast]

omit [Scalar α] in
/-- A program is its outline and its statements. -/
theorem Program.ext_statementAt? (p q : Program α) (houtline : p.outline = q.outline)
    (h : ∀ b, p.statementAt? b = q.statementAt? b) : p = q := by
  have hphases : p.phases = q.phases := by
    refine List.ext_getElem? fun i => ?_
    have hform := congrArg (·[i]?) houtline
    have hstatements : ∀ j : Nat, p.phases[i]?.bind (fun ph => ph.statements[j]?)
        = q.phases[i]?.bind fun ph => ph.statements[j]? := by
      intro j
      rw [← p.statementAt?_natCast, ← q.statementAt?_natCast, h]
    simp only [outline, List.getElem?_map] at hform
    -- Phases beyond the last one are missing from both outlines; any other differs by its
    -- statements at most.
    cases hp : p.phases[i]? with
    | none =>
        rw [hp, Option.map_none] at hform
        exact (Option.map_eq_none_iff.mp hform.symm).symm
    | some ph =>
        rw [hp, Option.map_some] at hform
        rcases Option.map_eq_some_iff.mp hform.symm with ⟨ph', hq, hsame⟩
        rw [Prod.mk.injEq, Prod.mk.injEq] at hsame
        simp only [hp, hq, Option.bind_some] at hstatements
        rw [hq, Option.some.injEq]
        rcases ph with ⟨method, duration, statements⟩
        rcases ph' with ⟨method', duration', statements'⟩
        rw [Phase.mk.injEq]
        exact ⟨hsame.1.symm, hsame.2.1.symm, List.ext_getElem? hstatements⟩
  rcases p with ⟨phases⟩
  rcases q with ⟨phases'⟩
  rw [Program.mk.injEq]
  exact hphases

/-- Two drags may be done in either order if the statement that both are for does not mind. -/
theorem change_comm_of_dragged (p : Program α) (h₁ h₂ : Handle α) (q₁ q₂ : Vec α)
    (hcomm : h₁.IsAt h₂.address → ∀ s, p.statementAt? h₁.address = some s →
      h₂.dragged q₂ (h₁.dragged q₁ s) = h₁.dragged q₁ (h₂.dragged q₂ s)) :
    (p.change h₁ q₁).change h₂ q₂ = (p.change h₂ q₂).change h₁ q₁ := by
  refine Program.ext_statementAt? _ _ ?_ fun b => ?_
  · rw [outline_change, outline_change, outline_change, outline_change]
  · rw [statementAt?_change, statementAt?_change, statementAt?_change, statementAt?_change,
      Option.map_map, Option.map_map]
    refine Option.map_congr fun s hs => ?_
    -- Only a statement that both handles are for sees both drags.
    by_cases hfirst : h₁.IsAt b
    · by_cases hsecond : h₂.IsAt b
      · have hsame : h₁.IsAt h₂.address :=
          ⟨hfirst.1.trans hsecond.1.symm, hfirst.2.trans hsecond.2.symm⟩
        have hs' : p.statementAt? h₁.address = some s := by
          rw [← hs, Program.statementAt?, Program.statementAt?, hfirst.1, hfirst.2]
        simp only [Function.comp, if_pos hfirst, if_pos hsecond]
        exact hcomm hsame s hs'
      · simp only [Function.comp, if_neg hsecond]
    · simp only [Function.comp, if_neg hfirst]

/-- The center of a turn writes the radius, and turns the angle if it changes its side. -/
theorem Handle.dragged_center (h : Handle α) (start direction : Vec α) (side : Bool) (distance : α)
    (hgrip : h.grip = .radius start direction side distance) (point : Vec α) (radius angle : α) :
    h.dragged point (.arcContinue radius angle)
      = .arcContinue (Scalar.abs (signedRadius start direction point))
        (if h.grip.turnsSide point then -angle else angle) := by
  rw [dragged, hgrip]
  rfl

/-- The end of a turn writes the angle. -/
theorem Handle.dragged_end (h : Handle α) (center : Vec α) (distance base sweep : α)
    (locked : Bool) (hgrip : h.grip = .onArc center distance base sweep locked) (point : Vec α)
    (radius angle : α) :
    h.dragged point (.arcContinue radius angle)
      = .arcContinue radius (draggedAngle center base sweep locked point) := by
  rw [dragged, hgrip]
  rfl

/-- Any two handles of one statement may be dragged in either order. They are compared in the order
    in which they are listed; what each writes is another argument. -/
theorem Statement.pairwise_commutes (s : Statement α) (cursor : Pose α) (address : Address) :
    (s.handles cursor address).Pairwise (Handle.Commutes s) := by
  cases s with
  | start _ | line _ | lineContinue _ => exact List.pairwise_singleton _ _
  | arc center angle => exact List.pairwise_pair.mpr fun _ _ _ _ => rfl
  | arcContinue radius angle =>
      -- The center turns the angle that the end writes, unless it stays on its side.
      refine List.pairwise_pair.mpr fun q₁ q₂ hcenter _ => ?_
      rw [Handle.dragged_center _ _ _ _ _ rfl, Handle.dragged_end _ _ _ _ _ _ rfl,
        Handle.dragged_end _ _ _ _ _ _ rfl, Handle.dragged_center _ _ _ _ _ rfl,
        if_neg fun hturns => hcenter ⟨⟨rfl, rfl⟩, hturns, rfl⟩]
  | bezier c1 c2 stop segments | bezierContinue c1Offset c2 stop segments =>
      refine List.pairwise_cons.mpr ⟨?_, List.pairwise_pair.mpr fun _ _ _ _ => rfl⟩
      rw [List.forall_mem_cons, List.forall_mem_singleton]
      exact ⟨fun _ _ _ _ => rfl, fun _ _ _ _ => rfl⟩

/-- Whichever of two different handles is listed first, they commute. -/
theorem Statement.commutes_handles (s : Statement α) (cursor : Pose α) (address : Address)
    (h₁ h₂ : Handle α) (hmem₁ : h₁ ∈ s.handles cursor address)
    (hmem₂ : h₂ ∈ s.handles cursor address) (hne : h₁ ≠ h₂) : Handle.Commutes s h₁ h₂ := by
  have hsymm : Std.Symm (Handle.Commutes s) :=
    ⟨fun _ _ hcomm q₁ q₂ hfirst hsecond => (hcomm q₂ q₁ hsecond hfirst).symm⟩
  -- Commuting is symmetric, so the order of the list does not matter.
  exact (s.pairwise_commutes cursor address).forall hmem₁ hmem₂ hne

/-- Only the center of a turn that goes straight on changes its side. -/
theorem Statement.exists_turn_of_turnsSide (s : Statement α) (cursor : Pose α)
    (address : Address) (h : Handle α) (hmem : h ∈ s.handles cursor address) (point : Vec α)
    (hturns : h.grip.turnsSide point = true) : ∃ radius angle, s = .arcContinue radius angle ∧
      h.grip = .radius cursor.position cursor.direction (decide (0 < angle)) radius := by
  cases s with
  | arcContinue radius angle =>
      rcases List.mem_pair.mp hmem with rfl | rfl
      · exact ⟨radius, angle, rfl, rfl⟩
      -- The other handle of this turn is no center.
      · cases hturns
  | start _ | line _ | lineContinue _ =>
      rw [List.mem_singleton.mp hmem] at hturns
      cases hturns
  | arc _ _ =>
      rcases List.mem_pair.mp hmem with rfl | rfl <;> cases hturns
  | bezier _ _ _ _ | bezierContinue _ _ _ _ =>
      rcases List.mem_cons.mp hmem with rfl | hmem
      · cases hturns
      · rcases List.mem_pair.mp hmem with rfl | rfl <;> cases hturns

/-- Independent drags commute. Any two handles of a program with different addresses may be dragged
    in either order, to any two points, and the program is the same in the end; unless one is the
    center of a turn that goes straight on, the other the end of the same turn, and the center
    changes its side. In that case the angles that are left differ by their signs. -/
theorem change_comm (p : Program α) (h₁ h₂ : Handle α) (hmem₁ : h₁ ∈ p.handles)
    (hmem₂ : h₂ ∈ p.handles) (hne : h₁.address ≠ h₂.address) (q₁ q₂ : Vec α) :
    (¬ h₁.Upsets h₂ q₁ → ¬ h₂.Upsets h₁ q₂ →
      (p.change h₁ q₁).change h₂ q₂ = (p.change h₂ q₂).change h₁ q₁) ∧
    (h₁.Upsets h₂ q₁ → ∃ radius angle,
      ((p.change h₁ q₁).change h₂ q₂).statementAt? h₁.address
        = some (.arcContinue radius angle) ∧
      ((p.change h₂ q₂).change h₁ q₁).statementAt? h₁.address
        = some (.arcContinue radius (-angle))) := by
  rcases exists_site_of_mem p h₁ hmem₁ with ⟨site, s, rfl, haddress, hown₁⟩
  have hs : (site.fill s).statementAt? h₁.address = some s := by
    rw [haddress]
    exact site.statementAt?_fill s _
  -- A handle with the same statement is one of the same site.
  have hown₂ : h₁.IsAt h₂.address → h₂ ∈ s.handles site.cursor (site.address 0) := by
    intro hsame
    rw [← site.handlesAt_fill s h₁.address.argument, ← haddress, Program.handlesAt]
    exact List.mem_filter.mpr ⟨hmem₂, decide_eq_true ⟨hsame.1.symm, hsame.2.symm⟩⟩
  refine ⟨fun hcenter hend => change_comm_of_dragged _ h₁ h₂ q₁ q₂ fun hsame t ht => ?_,
    fun hupsets => ?_⟩
  · rw [hs, Option.some.injEq] at ht
    rw [← ht]
    exact s.commutes_handles _ _ h₁ h₂ hown₁ (hown₂ hsame)
      (fun heq => hne (congrArg Handle.address heq)) q₁ q₂ hcenter hend
  -- The side has changed, so the turn leaves straight on and both handles are known.
  · rcases s.exists_turn_of_turnsSide _ _ h₁ hown₁ q₁ hupsets.turns with
      ⟨radius, angle, rfl, hgrip⟩
    have hself : h₁.IsAt h₁.address := ⟨rfl, rfl⟩
    have hother : h₂.IsAt h₁.address := ⟨hupsets.same.1.symm, hupsets.same.2.symm⟩
    have hangle := hupsets.angle
    cases hend : h₂.grip with
    | onArc center distance base sweep locked =>
        refine ⟨Scalar.abs (signedRadius site.cursor.position site.cursor.direction q₁),
          draggedAngle center base sweep locked q₂, ?_, ?_⟩
        -- First the center: its drag turns the angle, which the end then writes over.
        · rw [statementAt?_change, statementAt?_change, hs, Option.map_some, Option.map_some,
            if_pos hself, if_pos hother, h₁.dragged_center _ _ _ _ hgrip,
            h₂.dragged_end _ _ _ _ _ hend]
        -- First the end: its angle is turned by the drag of the center.
        · rw [statementAt?_change, statementAt?_change, hs, Option.map_some, Option.map_some,
            if_pos hself, if_pos hother, h₂.dragged_end _ _ _ _ _ hend,
            h₁.dragged_center _ _ _ _ hgrip, if_pos hupsets.turns]
    | free _ | ray _ _ _ | radius _ _ _ _ =>
        -- No other grip is for an angle.
        rw [hend] at hangle
        cases hangle

/-- A turn to the left. Its center is dragged along the left side, and then to the right. -/
theorem change_comm_turn :
    let p : Program ℝ := ⟨[⟨.uniform, 1, [.arcContinue 2 1]⟩]⟩
    let baseAngle := ((Pose.origin : Pose ℝ).position - arcCenter Pose.origin 2 1).angle
    let center : Handle ℝ := ⟨⟨0, 0, 0⟩, .arc, .arc, .radius Vec.zero Vec.unitX true 2⟩
    let stop : Handle ℝ :=
      ⟨⟨0, 0, 1⟩, .arc, .keyPoint, .onArc (arcCenter Pose.origin 2 1) 2 baseAngle 1 true⟩
    center ∈ p.handles ∧ stop ∈ p.handles ∧ center.address ≠ stop.address ∧
      ¬ center.Upsets stop ⟨1, 3⟩ ∧ ¬ stop.Upsets center ⟨1, 1⟩ ∧
      (p.change center ⟨1, 3⟩).change stop ⟨1, 1⟩ = (p.change stop ⟨1, 1⟩).change center ⟨1, 3⟩ ∧
      center.Upsets stop ⟨1, -3⟩ ∧ ∃ radius angle,
        ((p.change center ⟨1, -3⟩).change stop ⟨1, 1⟩).statementAt? center.address
          = some (.arcContinue radius angle) ∧
        ((p.change stop ⟨1, 1⟩).change center ⟨1, -3⟩).statementAt? center.address
          = some (.arcContinue radius (-angle)) := by
  intro p baseAngle center stop
  have hhandles : p.handles = [center, stop] := by
    have hleft : (0 : ℝ) < 1 := one_pos
    simp [p, center, stop, baseAngle, Program.handles, phaseHandles, statementHandles,
      Statement.handles, PathBuilder.ofCursor, Pose.origin, hleft]
  have hcenter : center ∈ p.handles := by
    rw [hhandles]
    exact List.mem_cons_self
  have hstop : stop ∈ p.handles := by
    rw [hhandles]
    exact List.mem_cons_of_mem _ List.mem_cons_self
  have hne : center.address ≠ stop.address := by decide
  -- The radius that the center is dragged to is the ordinate.
  have hsigned : ∀ x y : ℝ, signedRadius Vec.zero Vec.unitX ⟨x, y⟩ = y := by
    intro x y
    have hunit : (0 : ℝ) ^ 2 + 1 ^ 2 = 1 := by norm_num
    have hnormal : (Vec.unitX : Vec ℝ).perpendicular = ⟨0, 1⟩ := by
      ext
      · simp [Vec.unitX]
      · simp [Vec.unitX]
    rw [signedRadius, Vec.rotate_quarterTurn, hnormal,
      Vec.normalized_of_length _ ((Vec.length_eq_one_iff _).mpr hunit)]
    simp [Vec.dot_eq, Vec.zero]
  have hstays : center.grip.turnsSide ⟨1, 3⟩ = false := by
    simp [center, Grip.turnsSide, hsigned]
  have hturns : center.grip.turnsSide ⟨1, -3⟩ = true := by
    simp [center, Grip.turnsSide, hsigned]
  have hfirst : ¬ center.Upsets stop ⟨1, 3⟩ :=
    fun hupsets => absurd (hstays.symm.trans hupsets.turns) Bool.false_ne_true
  have hsecond : ¬ stop.Upsets center ⟨1, 1⟩ :=
    fun hupsets => absurd hupsets.turns Bool.false_ne_true
  have hupsets : center.Upsets stop ⟨1, -3⟩ := ⟨⟨rfl, rfl⟩, hturns, rfl⟩
  exact ⟨hcenter, hstop, hne, hfirst, hsecond,
    (change_comm p center stop hcenter hstop hne ⟨1, 3⟩ ⟨1, 1⟩).1 hfirst hsecond, hupsets,
    (change_comm p center stop hcenter hstop hne ⟨1, -3⟩ ⟨1, 1⟩).2 hupsets⟩

end PlanarMotion
