import PlanarMotion.Proofs.Handle.Arguments

/-!
# The Skeleton of the Handles

A handle shows where it is, and that depends on everything drawn before it. What it is does not:
its address, what can be done with it, and how it is to be drawn follow from the kind of its
statement alone. So two programs with the same kinds of statements in the same places have the
same handles up to their places, whatever numbers they are written with, and also if these are
no numbers.

Handles are listed in the order of their addresses, and each address once. Both follow from the
recursions that list them: what comes later has a later statement or a later phase.

## Main definitions

* `Handle.skeleton`: A handle without its geometry.
* `Program.kinds`: The kinds of the statements of a program.
* `Address.Before`: The order of addresses.

## Theorems

* `Statement.skeleton_handles`: The handles of a statement, up to geometry, depend on its kind.
* `skeleton_handles_of_kinds`: Those of a program depend on the kinds of its statements.
* `pairwise_before_handles`: Handles are in order.
* `count_address_handles`: Each argument has one handle.
-/

namespace PlanarMotion

/-- A handle without its geometry: its address, the kind of its grip, the kind of segment and the
    marker. -/
def Handle.skeleton {α : Type} (h : Handle α) : Address × String × SegmentKind × Marker :=
  (h.address, h.grip.kind, h.segment, h.marker)

/-- The kinds of the statements of a program, phase by phase. -/
def Program.kinds {α : Type} (p : Program α) : List (List String) :=
  p.phases.map fun phase => phase.statements.map Statement.kind

/-- An address comes before another: in an earlier phase, or in an earlier statement of the same
    phase, or earlier in the same statement. -/
def Address.Before (a b : Address) : Prop :=
  a.phase < b.phase ∨ a.phase = b.phase ∧
    (a.statement < b.statement ∨ a.statement = b.statement ∧ a.argument < b.argument)

variable {α : Type} [Scalar α]

/-- The handles of a statement, up to geometry, depend on its kind. -/
theorem Statement.skeleton_handles (s t : Statement α) (cursor other : Pose α) (address : Address)
    (h : s.kind = t.kind) :
    (s.handles cursor address).map Handle.skeleton
      = (t.handles other address).map Handle.skeleton := by
  -- Statements of different kinds are ruled out by the hypothesis.
  cases s <;> cases t <;> first
    | rfl
    | simp [kind] at h

/-- So do those of several statements, wherever these start. -/
theorem skeleton_statementHandles (phase index : Nat) (b c : PathBuilder α)
    (ss ts : List (Statement α)) (h : ss.map Statement.kind = ts.map Statement.kind) :
    (statementHandles phase index b ss).map Handle.skeleton
      = (statementHandles phase index c ts).map Handle.skeleton := by
  induction ss generalizing index b c ts with
  | nil =>
      rw [List.map_nil, eq_comm, List.map_eq_nil_iff] at h
      rw [h]
      rfl
  | cons s ss ih =>
      cases ts with
      | nil => cases h
      | cons t ts =>
          rw [List.map_cons, List.map_cons, List.cons.injEq] at h
          rw [statementHandles, statementHandles, List.map_append, List.map_append,
            s.skeleton_handles t b.cursor c.cursor _ h.1, ih (index + 1) _ (c.draw t) ts h.2]

/-- And those of several phases. -/
theorem skeleton_phaseHandles (index : Nat) (cursor other : Pose α) (ps qs : List (Phase α))
    (h : ps.map (fun phase => phase.statements.map Statement.kind)
      = qs.map fun phase => phase.statements.map Statement.kind) :
    (phaseHandles index cursor ps).map Handle.skeleton
      = (phaseHandles index other qs).map Handle.skeleton := by
  induction ps generalizing index cursor other qs with
  | nil =>
      rw [List.map_nil, eq_comm, List.map_eq_nil_iff] at h
      rw [h]
      rfl
  | cons p ps ih =>
      cases qs with
      | nil => cases h
      | cons q qs =>
          rw [List.map_cons, List.map_cons, List.cons.injEq] at h
          rw [phaseHandles, phaseHandles, List.map_append, List.map_append]
          rw [skeleton_statementHandles index 0 _ (.ofCursor other) _ _ h.1]
          exact congrArg _ (ih (index + 1) _ _ qs h.2)

/-- The handles of a program, up to geometry, depend on the kinds of its statements. -/
theorem skeleton_handles_of_kinds (p q : Program α) (h : p.kinds = q.kinds) :
    p.handles.map Handle.skeleton = q.handles.map Handle.skeleton :=
  skeleton_phaseHandles 0 Pose.origin Pose.origin p.phases q.phases h

section Order

/-- The handles of a statement are in order. -/
theorem Statement.pairwise_before_handles (s : Statement α) (cursor : Pose α) (address : Address) :
    (s.handles cursor address).Pairwise fun h k => h.address.Before k.address := by
  rw [← List.pairwise_map, s.map_address_handles, List.pairwise_map]
  refine List.pairwise_lt_range.imp fun {i j} hlt => ?_
  exact Or.inr ⟨rfl, Or.inr ⟨rfl, Int.ofNat_lt.mpr hlt⟩⟩

/-- The handles of statements are in order. -/
theorem pairwise_before_statementHandles (phase index : Nat) (b : PathBuilder α)
    (ss : List (Statement α)) :
    (statementHandles phase index b ss).Pairwise fun h k => h.address.Before k.address := by
  induction ss generalizing index b with
  | nil => exact List.Pairwise.nil
  | cons s ss ih =>
      rw [statementHandles, List.pairwise_append]
      refine ⟨s.pairwise_before_handles _ _, ih _ _, fun h hmem k kmem => ?_⟩
      -- The statements behind have greater indices.
      have hbounds := mem_statementHandles phase (index + 1) _ ss k kmem
      rw [s.address_handles _ _ h hmem]
      exact Or.inr ⟨hbounds.1.symm, Or.inl (by simp only []; omega)⟩

/-- The handles of phases are in order. -/
theorem pairwise_before_phaseHandles (index : Nat) (cursor : Pose α) (ps : List (Phase α)) :
    (phaseHandles index cursor ps).Pairwise fun h k => h.address.Before k.address := by
  induction ps generalizing index cursor with
  | nil => exact List.Pairwise.nil
  | cons p ps ih =>
      rw [phaseHandles, List.pairwise_append]
      refine ⟨pairwise_before_statementHandles _ _ _ _, ih _ _, fun h hmem k kmem => ?_⟩
      -- The handles of the phases behind have greater indices too.
      have hphase := (mem_statementHandles index 0 _ _ h hmem).1
      have hbounds := mem_phaseHandles (index + 1) _ ps k kmem
      exact Or.inl (by omega)

/-- The handles of a program are in order. -/
theorem pairwise_before_handles (p : Program α) :
    (p.handles.map (·.address)).Pairwise Address.Before :=
  List.pairwise_map.mpr (pairwise_before_phaseHandles 0 Pose.origin p.phases)

/-- Each argument of a program has one handle, and no other address has any. -/
theorem count_address_handles (p : Program α) (a : Address) :
    (p.handles.map (·.address)).count a = if (p.argumentAt? a).isSome then 1 else 0 := by
  have hnodup : (p.handles.map (·.address)).Nodup := by
    -- No address comes before itself.
    refine (pairwise_before_handles p).imp fun {b c} hbefore hsame => ?_
    rw [hsame] at hbefore
    rcases hbefore with hphase | ⟨-, hstatement | ⟨-, hargument⟩⟩ <;> omega
  have hmem : a ∈ p.handles.map (·.address) ↔ (p.argumentAt? a).isSome := by
    rw [List.mem_map, exists_mem_handles_iff]
  by_cases hsome : (p.argumentAt? a).isSome
  · rw [if_pos hsome]
    exact hnodup.count.trans (if_pos (hmem.mpr hsome))
  · rw [if_neg hsome]
    exact List.count_eq_zero_of_not_mem fun hin => hsome (hmem.mp hin)

end Order

end PlanarMotion
