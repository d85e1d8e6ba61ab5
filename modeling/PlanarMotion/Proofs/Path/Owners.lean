import PlanarMotion.Proofs.Path.Lookup
import PlanarMotion.Proofs.Number.Sums

/-!
# Every Distance Has One Owner

What a chain's search is for, said in terms of the marks that it looks through. A child owns the
distances from its start on, up to its mark and without it. Within a chain that has a length every
distance has one owner, the search finds it, and the chain asks this child and no other for the
pose. At the ends, and beyond, the first and the last child are asked, whether they own anything
or not.

Children without length own nothing. It is not enough to say that they are not found: what they
would have answered must not matter either, so other curves without length may stand in their
places.

All this holds of doubles, though their sums are rounded. What does not is that the owner is
asked for a distance on it, since the difference is rounded as well. Of real numbers this is true.

## Main definitions

* `Chain.startOf`, `Chain.Owns`: The distances that belong to a child.
* `Curve.Alike`: The same curve, or another one without length.
* `Chain.FindsOwners`: A chain asks the owner of each distance.

## Theorems

* `Chain.owns_iff`: Ownership, where the children are split at the owner.
* `Chain.findsOwners`: Chains of curves whose lengths are measured find owners.
* `Chain.findsOwners_doubles_reals`: So do those of doubles and those of real numbers.
-/

namespace PlanarMotion

section Measured

variable {α : Type} [Scalar α]

/-- The same curve, or another one of the same length, which is no length at all. -/
def Curve.Alike (d e : Curve α) : Prop :=
  d = e ∨ (d.length ≤ 0 ∧ e.length = d.length)

namespace Chain

/-- Where a child starts: at the mark in front of its own. -/
def startOf (c : Chain α) (i : Nat) : α :=
  if i = 0 then 0 else c.marks[i - 1]?.getD 0

/-- A child owns the distances from its start on, up to its mark. -/
def Owns (c : Chain α) (i : Nat) (t : α) : Prop :=
  ∃ mark, c.marks[i]? = some mark ∧ c.startOf i ≤ t ∧ t < mark

/-- A chain asks the owner of each distance within it, and at its ends the children there. -/
structure FindsOwners (c : Chain α) : Prop where
  /-- A child starts behind the lengths of those in front of it. -/
  starts : ∀ i < c.children.length, c.startOf i = total ((c.children.take i).map (·.length))
  /-- A distance within the chain has one owner. -/
  owner : ∀ t, 0 < t → t < c.length → ∃! i, c.Owns i t
  /-- The search finds it. It has a length, and the pose is its own. -/
  asked : ∀ t i, 0 < t → c.Owns i t → c.place? t = some (i, t - c.startOf i) ∧
    ∃ child, c.children[i]? = some child ∧ 0 < child.length ∧
      c.curve.pose? t = child.pose? (t - c.startOf i)
  /-- Up to the start it is the first child that is asked, for its start. -/
  first : ∀ t, t ≤ 0 → ∃ child, c.children.head? = some child ∧
    c.curve.pose? t = child.pose? 0
  /-- From the end on it is the last one, for its end. -/
  last : ∀ t, c.length ≤ t → ∃ child, c.children.getLast? = some child ∧
    c.curve.pose? t = child.pose? child.length
  /-- Within the chain it does not matter what children without length are. -/
  idle : ∀ d : Chain α, List.Forall₂ Curve.Alike c.children d.children →
    ∀ t, 0 < t → t < c.length → d.curve.pose? t = c.curve.pose? t

variable (c : Chain α)

theorem pose?_of_some (t offset : α) (child : Curve α)
    (h : c.answerer? t = some (child, offset)) : c.curve.pose? t = child.pose? offset := by
  rw [Curve.pose?, Curve.pose?, c.pose_of_some t offset child h,
    c.defined_of_some t offset child h]

omit [Scalar α] in
theorem children_split (i : Nat) (hi : i < c.children.length) :
    c.children = c.children.take i ++ c.children[i] :: c.children.drop (i + 1) := by
  rw [List.getElem_cons_drop, List.take_append_drop]

/-- The one who has a mark has a place among the children. -/
theorem exists_split (i : Nat) (t : α) (h : c.Owns i t) :
    ∃ front child back, c.children = front ++ child :: back ∧ front.length = i := by
  rcases h with ⟨mark, hmark, -⟩
  have hi : i < c.children.length := by
    have hbound := (Array.getElem?_eq_some_iff.mp hmark).1
    rwa [marks, List.size_toArray, length_runningSums, List.length_map] at hbound
  refine ⟨_, _, _, c.children_split i hi, ?_⟩
  rw [List.length_take, Nat.min_eq_left hi.le]

section Split

variable (front back : List (Curve α)) (child : Curve α)
    (hchildren : c.children = front ++ child :: back)

include hchildren

theorem startOf_length : c.startOf front.length = total (front.map (·.length)) := by
  rw [startOf, c.mark_before front back child hchildren]

/-- Ownership, where the children are split at the owner. -/
theorem owns_iff (t : α) :
    c.Owns front.length t ↔ total (front.map (·.length)) ≤ t ∧
      t < total (front.map (·.length)) + child.length := by
  have hmark : c.marks[front.length]? = some (total (front.map (·.length)) + child.length) := by
    rw [marks, List.getElem?_toArray, hchildren, List.map_append, List.map_cons,
      ← List.length_map (·.length), getElem?_runningSums_split]
  rw [Owns, hmark, c.startOf_length front back child hchildren]
  constructor
  · rintro ⟨mark, hsome, hlow, hhigh⟩
    rw [← Option.some.inj hsome] at hhigh
    exact ⟨hlow, hhigh⟩
  · rintro ⟨hlow, hhigh⟩
    exact ⟨_, rfl, hlow, hhigh⟩

end Split

theorem startOf_eq (i : Nat) (hi : i < c.children.length) :
    c.startOf i = total ((c.children.take i).map (·.length)) := by
  have hstart := c.startOf_length _ _ _ (c.children_split i hi)
  rwa [List.length_take, Nat.min_eq_left hi.le] at hstart

section Lengths

variable (hα : Measures α) (hnonneg : ∀ d ∈ c.children, 0 ≤ d.length)

include hα hnonneg

/-- The search finds whoever owns a distance, and this child has a length. -/
theorem place?_of_owns (i : Nat) (t : α) (h : c.Owns i t) :
    c.place? t = some (i, t - c.startOf i) ∧
      ∃ child, c.children[i]? = some child ∧ 0 < child.length ∧ t < c.length := by
  rcases c.exists_split i t h with ⟨front, child, back, hchildren, rfl⟩
  rcases (c.owns_iff front back child hchildren t).mp h with ⟨hlow, hhigh⟩
  rcases c.lengths_split front back child hchildren hnonneg with ⟨hfronts, hchild, -⟩
  refine ⟨?_, child, ?_, ?_, ?_⟩
  · rw [c.startOf_length front back child hchildren]
    exact c.place?_owner hα front back child hchildren hnonneg t hlow hhigh
  · rw [hchildren, getElem?_split]
  · exact hα.pos_of_between (hα.total_nonneg _ hfronts) hchild hlow hhigh
  · exact c.lt_length_of_owner hα front back child hchildren hnonneg t hhigh

/-- A distance within a chain has one owner: the search would find any other one as well. -/
theorem existsUnique_owns (t : α) (hpos : 0 < t) (hinside : t < c.length) :
    ∃! i, c.Owns i t := by
  -- Some child owns the distance, since the lengths add up to the chain's.
  rcases hα.exists_owner c.children (·.length) hnonneg (hα.le_of_lt hpos) hinside
    with ⟨front, child, back, hchildren, hbounds⟩
  have hown := (c.owns_iff front back child hchildren t).mpr hbounds
  -- The search has one result, which is the index of whoever owns the distance.
  refine ⟨front.length, hown, fun j hj => ?_⟩
  have hplace := (c.place?_of_owns hα hnonneg j t hj).1
  rw [(c.place?_of_owns hα hnonneg _ t hown).1] at hplace
  exact (congrArg Prod.fst (Option.some.inj hplace)).symm

end Lengths

end Chain

/-- Putting other curves without length in place of some does not change lengths. -/
theorem Curve.lengths_of_alike {xs ys : List (Curve α)} (h : List.Forall₂ Curve.Alike xs ys) :
    ys.map (·.length) = xs.map (·.length) := by
  induction h with
  | nil => rfl
  | cons halike _ ih =>
      rw [List.map_cons, List.map_cons, ih]
      rcases halike with rfl | ⟨-, hlength⟩
      · rfl
      · rw [hlength]

/-- Curves that have a length stay where they are. -/
theorem Curve.getElem?_of_alike {xs ys : List (Curve α)} (h : List.Forall₂ Curve.Alike xs ys)
    (i : Nat) (child : Curve α) (hchild : xs[i]? = some child) (hpos : ¬ child.length ≤ 0) :
    ys[i]? = some child := by
  induction h generalizing i with
  | nil => cases hchild
  | cons halike _ ih =>
      cases i with
      | zero =>
          rw [List.getElem?_cons_zero, Option.some.injEq] at hchild
          rcases halike with rfl | ⟨hidle, -⟩
          · rw [List.getElem?_cons_zero, hchild]
          -- Only curves without length are replaced.
          · exact absurd (hchild ▸ hidle) hpos
      | succ i =>
          rw [List.getElem?_cons_succ] at hchild ⊢
          exact ih i hchild

/-- Chains of curves whose lengths are measured find the owners of distances. -/
theorem Chain.findsOwners (hα : Measures α) (c : Chain α) (hnonneg : ∀ d ∈ c.children, 0 ≤ d.length)
    (hlength : 0 < c.length) : c.FindsOwners where
  starts := c.startOf_eq
  owner := c.existsUnique_owns hα hnonneg
  asked := by
    intro t i hpos h
    rcases c.place?_of_owns hα hnonneg i t h with ⟨hplace, child, hchild, hchildpos, hinside⟩
    exact ⟨hplace, child, hchild, hchildpos, c.pose?_of_some t _ child
      (c.answerer?_of_place? hα t hpos hinside _ _ hplace child hchild)⟩
  first := by
    intro t ht
    cases hchildren : c.children with
    | nil =>
        rw [Chain.length, hchildren] at hlength
        exact absurd hα.zero_le (hα.not_le_of_lt hlength)
    | cons child rest =>
        exact ⟨child, rfl, c.pose?_of_some t 0 child
          (c.answerer?_first hα child rest hchildren hlength t ht)⟩
  last := by
    intro t ht
    rcases List.eq_nil_or_concat' c.children with hchildren | ⟨front, child, hchildren⟩
    · rw [Chain.length, hchildren] at hlength
      exact absurd hα.zero_le (hα.not_le_of_lt hlength)
    · refine ⟨child, ?_, c.pose?_of_some t _ child
        (c.answerer?_last hα front child hchildren hlength t ht)⟩
      rw [hchildren, List.getLast?_append, List.getLast?_singleton, Option.some_or]
  idle := by
    intro d halike t hpos hinside
    -- The lengths are the same, so the search stops at the same index. There a child with a
    -- length stands, which has not been replaced.
    have hlengths := Curve.lengths_of_alike halike
    have hplaces : d.place? t = c.place? t := by
      rw [Chain.place?, Chain.place?, Chain.marks, Chain.marks, hlengths]
    have hends : d.length = c.length := by rw [Chain.length, Chain.length, hlengths]
    rcases c.existsUnique_owns hα hnonneg t hpos hinside with ⟨i, hown, -⟩
    rcases c.place?_of_owns hα hnonneg i t hown with ⟨hplace, child, hchild, hchildpos, -⟩
    have hsame := Curve.getElem?_of_alike halike i child hchild (hα.not_le_of_lt hchildpos)
    have hc := c.answerer?_of_place? hα t hpos hinside _ _ hplace child hchild
    have hd := d.answerer?_of_place? hα t hpos (hends ▸ hinside) _ _ (hplaces.trans hplace) child
      hsame
    rw [c.pose?_of_some t _ child hc, d.pose?_of_some t _ child hd]

end Measured

/-- What an owner is asked for is on it, if no number is rounded. -/
theorem Chain.offset_mem_of_owns (c : Chain ℝ) (i : Nat) (t : ℝ) (h : c.Owns i t)
    (child : Curve ℝ) (hchild : c.children[i]? = some child) :
    0 ≤ t - c.startOf i ∧ t - c.startOf i < child.length := by
  rcases c.exists_split i t h with ⟨front, owner, back, hchildren, rfl⟩
  rcases (c.owns_iff front back owner hchildren t).mp h with ⟨hlow, hhigh⟩
  rw [hchildren, getElem?_split, Option.some.injEq] at hchild
  rw [c.startOf_length front back owner hchildren, ← hchild]
  exact ⟨sub_nonneg.mpr hlow, sub_lt_iff_lt_add'.mpr hhigh⟩

/-- Chains find the owners of distances, in doubles and in real numbers. In real numbers the owner
    is asked for a distance on it. -/
theorem Chain.findsOwners_doubles_reals :
    (∀ c : Chain Float, (∀ d ∈ c.children, 0 ≤ d.length) → 0 < c.length → c.FindsOwners) ∧
    (∀ c : Chain ℝ, (∀ d ∈ c.children, 0 ≤ d.length) → 0 < c.length → c.FindsOwners ∧
      ∀ t i child, c.Owns i t → c.children[i]? = some child →
        0 ≤ t - c.startOf i ∧ t - c.startOf i < child.length) :=
  ⟨fun c hnonneg hlength => c.findsOwners Number.measures_float hnonneg hlength,
    fun c hnonneg hlength => ⟨c.findsOwners measures_real hnonneg hlength,
      fun t i child h hchild => c.offset_mem_of_owns i t h child hchild⟩⟩

/-- A curve of a given length along the first axis. -/
def Curve.along {α : Type} [Scalar α] (length : α) : Curve α :=
  ⟨length, fun t => ⟨⟨t, 0⟩, ⟨1, 0⟩⟩, fun _ => true⟩

/-- Points in front of and behind a curve of length one. -/
def Chain.amongPoints (α : Type) [Scalar α] : Chain α :=
  ⟨[Curve.along 0, Curve.along 1, Curve.along 0], ⟨⟨0, 0⟩, ⟨1, 0⟩⟩⟩

theorem Chain.findsOwners_amongPoints :
    (Chain.amongPoints Float).FindsOwners ∧ (Chain.amongPoints ℝ).FindsOwners := by
  refine ⟨Chain.findsOwners_doubles_reals.1 _ ?_ ?_,
    (Chain.findsOwners_doubles_reals.2 _ ?_ ?_).1⟩
  · decide +kernel
  · decide +kernel
  · rw [Chain.amongPoints, List.forall_mem_cons, List.forall_mem_cons, List.forall_mem_singleton]
    exact ⟨le_refl 0, zero_le_one, le_refl 0⟩
  · rw [Chain.length_eq_sum]
    change 0 < [(0 : ℝ), 1, 0].sum
    norm_num

end PlanarMotion
