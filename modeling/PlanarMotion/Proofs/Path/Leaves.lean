import PlanarMotion.Proofs.Path.Lookup

/-!
# The Leaves of a Path

A path is a tree, and only its leaves are curves in closed form: lines and arcs, with the chords
of a polyline among the lines. Between the ends of a leaf a path has the poses of that leaf, less
the lengths of the leaves in front, whatever the levels in between are. The induction is on the
tree. At each level the leaves are split where the leaf is; the split gives one of the children,
and the chain finds this child.

Where two leaves meet nothing is said, since the path has the pose of one of them there.

## Main definitions

* `Path.leaves`: The lines and arcs of a path.
* `Path.Inside`: A distance is strictly between the ends of a leaf.
* `Path.FollowsLeaves`: Between the ends of each leaf the path has the poses of that leaf.

## Theorems

* `Path.induction_on`: Induction on the tree of a path.
* `Path.mem_leaves`: A leaf is a line or an arc.
* `Path.length_eq_sum_leaves`: A path is as long as its leaves.
* `Path.followsLeaves`: A path follows its leaves.
-/

namespace PlanarMotion

namespace Path

mutual

/-- The lines and arcs of a path, in order. The chords of a polyline are lines. -/
def leaves {α : Type} [Scalar α] : Path α → List (Path α)
  | .line s => [.line s]
  | .arc a => [.arc a]
  | .polyline p => p.chords.map .line
  | .chain children _ => leavesOf children

/-- The lines and arcs of several paths. -/
def leavesOf {α : Type} [Scalar α] : List (Path α) → List (Path α)
  | [] => []
  | path :: paths => leaves path ++ leavesOf paths

end

theorem leavesOf_eq_flatMap {α : Type} [Scalar α] (paths : List (Path α)) :
    leavesOf paths = paths.flatMap leaves := by
  induction paths with
  | nil => rw [leavesOf, List.flatMap_nil]
  | cons path paths ih => rw [leavesOf, List.flatMap_cons, ih]

theorem leaves_line {α : Type} [Scalar α] (chords : List (LineSegment α)) :
    (chords.map Path.line).flatMap leaves = chords.map Path.line := by
  induction chords with
  | nil => rfl
  | cons s chords ih =>
      rw [List.map_cons, List.flatMap_cons, ih, leaves, List.singleton_append]

/-- A polyline is a chain of lines. -/
theorem curve_polyline (p : Polyline ℝ) :
    (Path.polyline p).curve = (Path.chain (p.chords.map .line) p.chain.rest).curve := by
  have hcurves : curves (p.chords.map .line) = p.chords.map LineSegment.curve := by
    rw [curves_eq_map, List.map_map]
    refine List.map_congr_left fun s _ => ?_
    rw [Function.comp, curve]
  rw [curve, curve, hcurves]
  rfl

/-- A chain of paths is as long as they are together. -/
theorem length_chain (children : List (Path ℝ)) (rest : Pose ℝ) :
    (Path.chain children rest).length = (children.map length).sum := by
  have hlength : (Path.chain children rest).length
      = (Chain.mk (curves children) rest).length := by
    rw [length, curve]
    rfl
  rw [hlength, Chain.length_eq_sum, curves_eq_map, List.map_map]
  rfl

/-- Induction on the tree of a path: a chain has what all its children have. -/
theorem induction_on {α : Type} [Scalar α] {motive : Path α → Prop} (p : Path α)
    (line : ∀ s, motive (.line s)) (arc : ∀ a, motive (.arc a))
    (polyline : ∀ p, motive (.polyline p))
    (chain : ∀ children rest, (∀ child ∈ children, motive child) →
      motive (.chain children rest)) : motive p := by
  cases p with
  | line s => exact line s
  | arc a => exact arc a
  | polyline p => exact polyline p
  | chain children rest =>
      exact chain children rest fun child _ => induction_on child line arc polyline chain

/-- A leaf is a line or an arc. -/
theorem mem_leaves {α : Type} [Scalar α] (p : Path α) :
    ∀ leaf ∈ p.leaves, (∃ s, leaf = .line s) ∨ ∃ a, leaf = .arc a := by
  induction p using induction_on with
  | line s =>
      rw [leaves, List.forall_mem_singleton]
      exact Or.inl ⟨s, rfl⟩
  | arc a =>
      rw [leaves, List.forall_mem_singleton]
      exact Or.inr ⟨a, rfl⟩
  | polyline p =>
      rw [leaves, List.forall_mem_map]
      exact fun s _ => Or.inl ⟨s, rfl⟩
  | chain children rest ih =>
      rw [leaves, leavesOf_eq_flatMap]
      intro leaf hleaf
      rcases List.mem_flatMap.mp hleaf with ⟨child, hchild, hmem⟩
      exact ih child hchild leaf hmem

/-- A path is as long as its leaves. -/
theorem length_eq_sum_leaves (p : Path ℝ) : p.length = (p.leaves.map length).sum := by
  induction p using induction_on with
  | line s => simp [leaves]
  | arc a => simp [leaves]
  | polyline p =>
      rw [length, curve_polyline, ← length, length_chain, leaves]
  | chain children rest ih =>
      rw [length_chain, leaves, leavesOf_eq_flatMap]
      -- Child by child: its own leaves, and then those of the others.
      induction children with
      | nil => rfl
      | cons child children ihrest =>
          rw [List.forall_mem_cons] at ih
          rw [List.map_cons, List.sum_cons, List.flatMap_cons, List.map_append, List.sum_append,
            ih.1, ihrest ih.2]

/-- A distance is strictly between the ends of a leaf. -/
def Inside (p : Path ℝ) (t : ℝ) : Prop :=
  ∃ front leaf back, p.leaves = front ++ leaf :: back ∧
    (front.map length).sum < t ∧ t < (front.map length).sum + leaf.length

/-- Between the ends of each leaf the path has the poses of that leaf. -/
def FollowsLeaves (p : Path ℝ) : Prop :=
  ∀ front leaf back t, p.leaves = front ++ leaf :: back →
    (front.map length).sum < t → t < (front.map length).sum + leaf.length →
      p.pose t = leaf.pose (t - (front.map length).sum)

/-- A list of lists that is split is split within one of the lists. -/
theorem exists_split_flatMap {β γ : Type} (g : β → List γ) (xs : List β) (front back : List γ)
    (y : γ) (h : xs.flatMap g = front ++ y :: back) : ∃ before x after inner rest,
      xs = before ++ x :: after ∧ g x = inner ++ y :: rest ∧
        front = before.flatMap g ++ inner := by
  induction xs generalizing front with
  | nil => simp at h
  | cons x xs ih =>
      rw [List.flatMap_cons, List.append_eq_append_iff] at h
      -- The split is behind the first list, at its end or within it.
      rcases h with ⟨inner, hfront, hrest⟩ | ⟨inner, hown, hrest⟩
      · rcases ih inner hrest with ⟨before, z, after, inner', rest, hxs, hz, hinner⟩
        refine ⟨x :: before, z, after, inner', rest, by rw [hxs, List.cons_append], hz, ?_⟩
        rw [hfront, hinner, List.flatMap_cons, List.append_assoc]
      -- At the end of the first list nothing is left of it, and the split is in the others.
      · rcases inner with _ | ⟨z, inner⟩
        · rcases ih [] hrest.symm with ⟨before, z, after, inner', rest, hxs, hz, hinner⟩
          refine ⟨x :: before, z, after, inner', rest, by rw [hxs, List.cons_append], hz, ?_⟩
          rw [List.flatMap_cons, List.append_assoc, ← hinner, hown, List.append_nil,
            List.append_nil]
        · rw [List.cons_append, List.cons.injEq] at hrest
          refine ⟨[], x, xs, front, inner, rfl, ?_, rfl⟩
          rw [hown, hrest.1]

/-- Up to the end of a child a chain has the poses of that child. -/
theorem pose_chain (before after : List (Path ℝ)) (child : Path ℝ) (rest : Pose ℝ)
    (hnonneg : ∀ d ∈ before ++ child :: after, 0 ≤ d.length) (t : ℝ) (hpos : 0 < t)
    (hlow : (before.map length).sum ≤ t) (hhigh : t < (before.map length).sum + child.length) :
    (Path.chain (before ++ child :: after) rest).pose t
      = child.pose (t - (before.map length).sum) := by
  have hsum : total ((before.map curve).map (·.length)) = (before.map length).sum := by
    rw [total_eq_sum, List.map_map]
    rfl
  have hcurves : curves (before ++ child :: after)
      = before.map curve ++ child.curve :: after.map curve := by
    rw [curves_eq_map, List.map_append, List.map_cons]
  have hlengths : ∀ d ∈ curves (before ++ child :: after), 0 ≤ d.length := by
    rw [curves_eq_map]
    exact List.forall_mem_map.mpr hnonneg
  -- The child owns the distance, so the search finds it.
  have hanswer := (Chain.mk (curves (before ++ child :: after)) rest).answerer?_owner measures_real
    (before.map curve) (after.map curve) child.curve hcurves hlengths t
    (hsum.trans_le hlow) (hhigh.trans_eq (congrArg (· + child.length) hsum.symm)) hpos
  rw [pose, curve, Chain.pose_of_some _ t _ _ hanswer, hsum, ← pose]

/-- A chain follows the leaves of its children if each of these does. -/
theorem followsLeaves_chain (children : List (Path ℝ)) (rest : Pose ℝ)
    (hnonneg : ∀ child ∈ children, ∀ leaf ∈ child.leaves, 0 ≤ leaf.length)
    (ih : ∀ child ∈ children, child.FollowsLeaves) :
    (Path.chain children rest).FollowsLeaves := by
  intro front leaf back t hsplit hlow hhigh
  rw [leaves, leavesOf_eq_flatMap] at hsplit
  rcases exists_split_flatMap leaves children front back leaf hsplit with
    ⟨before, child, after, inner, others, rfl, hinner, hfront⟩
  have hmem : child ∈ before ++ child :: after := List.mem_append_right _ List.mem_cons_self
  have hlengths : ∀ d ∈ before ++ child :: after, 0 ≤ d.length := by
    intro d hd
    rw [d.length_eq_sum_leaves]
    exact List.sum_nonneg (List.forall_mem_map.mpr (hnonneg d hd))
  -- What is in front of the leaf are the children before its own, and leaves of its own one.
  have hsum : (front.map length).sum = (before.map length).sum + (inner.map length).sum := by
    have hbefore := length_chain before rest
    rw [length_eq_sum_leaves, leaves, leavesOf_eq_flatMap] at hbefore
    rw [hfront, List.map_append, List.sum_append, hbefore]
  have hown : child.length
      = (inner.map length).sum + (leaf.length + (others.map length).sum) := by
    rw [child.length_eq_sum_leaves, hinner, List.map_append, List.map_cons, List.sum_append,
      List.sum_cons]
  have hleaves := hnonneg child hmem
  rw [hinner, List.forall_mem_append, List.forall_mem_cons] at hleaves
  have hinnerpos := List.sum_nonneg (List.forall_mem_map.mpr hleaves.1)
  have hotherspos := List.sum_nonneg (List.forall_mem_map.mpr hleaves.2.2)
  have hbeforepos :=
    List.sum_nonneg (List.forall_mem_map.mpr (List.forall_mem_append.mp hlengths).1)
  -- First the chain hands over to the child, and then the child to the leaf.
  have hpose := pose_chain before after child rest hlengths t (by linarith) (by linarith)
    (by linarith)
  have hchild := ih child hmem inner leaf others (t - (before.map length).sum) hinner
    (by linarith) (by linarith)
  rw [hpose, hchild, hsum, sub_sub]

/-- Between the ends of each leaf a path has the poses of that leaf, if no leaf has a negative
    length. -/
theorem followsLeaves (p : Path ℝ) (hnonneg : ∀ leaf ∈ p.leaves, 0 ≤ leaf.length) :
    p.FollowsLeaves := by
  have hleaf : ∀ q : Path ℝ, q.leaves = [q] → q.FollowsLeaves := by
    intro q hq front leaf back t hsplit _ _
    rw [hq, eq_comm, List.append_eq_singleton_iff] at hsplit
    rcases hsplit with ⟨rfl, hone⟩ | ⟨_, hnone⟩
    · rw [(List.cons.inj hone).1, List.map_nil, List.sum_nil, sub_zero]
    · cases hnone
  -- A polyline is a chain of leaves, so both of the other cases are the one of chains.
  induction p using induction_on with
  | line s => exact hleaf _ rfl
  | arc a => exact hleaf _ rfl
  | polyline p =>
      rw [leaves, List.forall_mem_map] at hnonneg
      have hchain := followsLeaves_chain (p.chords.map .line) p.chain.rest
        (List.forall_mem_map.mpr fun s hs => List.forall_mem_singleton.mpr (hnonneg s hs))
        (List.forall_mem_map.mpr fun s _ => hleaf _ rfl)
      intro front leaf back t hsplit
      rw [pose, curve_polyline, ← pose]
      refine hchain front leaf back t ?_
      rw [leaves, leavesOf_eq_flatMap, leaves_line, ← hsplit, leaves]
  | chain children rest ih =>
      rw [leaves, leavesOf_eq_flatMap] at hnonneg
      have hall : ∀ child ∈ children, ∀ leaf ∈ child.leaves, 0 ≤ leaf.length :=
        fun child hchild leaf hmem => hnonneg leaf (List.mem_flatMap.mpr ⟨child, hchild, hmem⟩)
      exact followsLeaves_chain children rest hall fun child hchild =>
        ih child hchild (hall child hchild)

end Path

end PlanarMotion
