import PlanarMotion.Path.Basic
import PlanarMotion.Proofs.Path.Sums
import PlanarMotion.Proofs.Plane.Reals
import Mathlib.Algebra.Order.BigOperators.Group.List

/-!
# Finding the Owner of a Distance

A chain finds the child that owns a distance by a search among the running sums of lengths, and
gives it the distance that is left. Written as lists this says: the children in front are used
up, the owner is not. So a chain is described here by splitting the list of its children, and the
search by splitting the list of marks; that the marks in front are not beyond the distance and
the others are is all that a binary search needs.

Such a split exists for every distance within the chain, and children without length are never
the owner, as there is no distance that they do not use up. All this is said of any numbers that
lengths can be measured with. The real numbers are among them, and there a total is a sum.

## Theorems

* `firstBeyond_append`: What the binary search finds.
* `Chain.place?_owner`: So the owner of a distance is found.
* `Chain.answerer?_first`, `Chain.answerer?_owner`, `Chain.answerer?_last`: Who answers for a
  chain.
* `measures_real`: Lengths can be measured with real numbers.
* `total_eq_sum`: Real lengths add up to their sum.
-/

namespace PlanarMotion

section Search

variable {α : Type} [Scalar α]

/-- The search, as it narrows its bounds down to the place where the marks pass `t`. -/
theorem firstBeyondWithin_append (front back : List α) (t : α) (hfront : ∀ m ∈ front, ¬ t < m)
    (hback : ∀ m ∈ back, t < m) (low high : Nat) (hhigh : high ≤ (front ++ back).toArray.size)
    (hlow : low ≤ front.length) (hle : front.length ≤ high) :
    firstBeyondWithin (front ++ back).toArray t low high hhigh = front.length := by
  fun_induction firstBeyondWithin (front ++ back).toArray t low high hhigh with
  | case1 low high hhigh hlt middle hmiddle hbeyond ih =>
      refine ih hlow ?_
      -- A mark beyond `t` is not one of those in front.
      by_contra hbelow
      rw [List.getElem_toArray, List.getElem_append_left (by omega)] at hbeyond
      exact hfront _ (List.getElem_mem _) hbeyond
  -- Likewise, a mark that is not beyond `t` is one of those in front.
  | case2 low high hhigh hlt middle hmiddle hbeyond ih =>
      refine ih ?_ hle
      by_contra habove
      rw [List.getElem_toArray, List.getElem_append_right (by omega)] at hbeyond
      exact hbeyond (hback _ (List.getElem_mem _))
  | case3 low high hhigh hge => omega

/-- The binary search finds the first mark beyond a number. -/
theorem firstBeyond_append (front back : List α) (t : α) (hfront : ∀ m ∈ front, ¬ t < m)
    (hback : ∀ m ∈ back, t < m) : firstBeyond (front ++ back).toArray t = front.length := by
  refine firstBeyondWithin_append front back t hfront hback 0 _ _ (Nat.zero_le _) ?_
  rw [List.size_toArray, List.length_append]
  omega

/-- The mark in front of the others is the total of what is in front. -/
theorem getElem?_mark_before (xs : List α) (marks : List α) :
    (if xs.length = 0 then 0 else (runningSums xs ++ marks)[xs.length - 1]?.getD 0) = total xs := by
  by_cases hempty : xs.length = 0
  · rw [if_pos hempty, List.eq_nil_of_length_eq_zero hempty]
    rfl
  · have hlength := length_runningSums xs
    rw [if_neg hempty, List.getElem?_append_left (by omega), ← hlength,
      ← List.getLast?_eq_getElem?, ← List.getLastD_eq_getLast?, getLastD_runningSums]

/-- A list that is split has the next one where the front ends. -/
theorem getElem?_split {β : Type} (front back : List β) (x : β) :
    (front ++ x :: back)[front.length]? = some x := by
  rw [List.getElem?_append_right (Nat.le_refl _), Nat.sub_self, List.getElem?_cons_zero]

end Search

namespace Chain

variable {α : Type} [Scalar α] (c : Chain α)

theorem pose_of_some (t offset : α) (child : Curve α)
    (h : c.answerer? t = some (child, offset)) : c.curve.pose t = child.pose offset := by
  unfold answerer? at h
  simp only [curve, h]

theorem pose_of_none (t : α) (h : c.answerer? t = none) : c.curve.pose t = c.rest := by
  unfold answerer? at h
  simp only [curve, h]

theorem defined_of_some (t offset : α) (child : Curve α)
    (h : c.answerer? t = some (child, offset)) : c.curve.defined t = child.defined offset := by
  unfold answerer? at h
  simp only [curve, h]

theorem defined_of_none (t : α) (h : c.answerer? t = none) : c.curve.defined t = true := by
  unfold answerer? at h
  simp only [curve, h]

theorem answerer?_of_zero (h : (c.length == 0) = true) (t : α) : c.answerer? t = none := by
  unfold answerer? answererAmong?
  rw [if_pos h]

variable (hα : Measures α)

include hα

theorem answerer?_first (child : Curve α) (rest : List (Curve α))
    (hchildren : c.children = child :: rest) (h : 0 < c.length) (t : α) (ht : t ≤ 0) :
    c.answerer? t = some (child, 0) := by
  unfold answerer? answererAmong?
  rw [if_neg (Bool.eq_false_iff.mp (hα.beq_zero_of_pos h)), if_pos ht, hchildren]
  rfl

/-- From its end on a chain asks its last child, for that one's end. -/
theorem answerer?_last (front : List (Curve α)) (child : Curve α)
    (hchildren : c.children = front ++ [child]) (h : 0 < c.length) (t : α) (ht : c.length ≤ t) :
    c.answerer? t = some (child, child.length) := by
  -- The last place of the array is the last child of the list.
  have hlast : c.children.toArray[c.children.toArray.size - 1]? = some child := by
    rw [List.size_toArray, List.getElem?_toArray, ← List.getLast?_eq_getElem?, hchildren,
      List.getLast?_append, List.getLast?_singleton, Option.some_or]
  unfold answerer? answererAmong?
  rw [if_neg (Bool.eq_false_iff.mp (hα.beq_zero_of_pos h)),
    if_neg (hα.not_le_of_lt (hα.lt_of_lt_of_le h ht)), if_pos ht, hlast, Option.map_some]

/-- Within a chain it is the child that the search finds. -/
theorem answerer?_of_place? (t : α) (hpos : 0 < t) (hinside : t < c.length) (index : Nat)
    (offset : α) (hplace : c.place? t = some (index, offset)) (child : Curve α)
    (hchild : c.children[index]? = some child) : c.answerer? t = some (child, offset) := by
  have hlength : 0 < c.length := hα.lt_of_lt_of_le hpos (hα.le_of_lt hinside)
  unfold place? at hplace
  unfold answerer? answererAmong?
  rw [if_neg (Bool.eq_false_iff.mp (hα.beq_zero_of_pos hlength)),
    if_neg (hα.not_le_of_lt hpos), if_neg (hα.not_le_of_lt hinside), hplace]
  simp only [Option.bind_some, List.getElem?_toArray, hchild, Option.map_some]

section Owner

variable (front back : List (Curve α)) (child : Curve α)
    (hchildren : c.children = front ++ child :: back)

include hchildren

omit hα in
theorem marks_split : c.marks = (runningSums (front.map (·.length))
    ++ (total (front.map (·.length)) + child.length) ::
      runningSumsFrom (total (front.map (·.length)) + child.length)
        (back.map (·.length))).toArray := by
  rw [marks, hchildren, List.map_append, List.map_cons, runningSums_split]

omit hα in
/-- The mark in front of a child is the total of the children in front. -/
theorem mark_before :
    (if front.length = 0 then 0 else c.marks[front.length - 1]?.getD 0)
      = total (front.map (·.length)) := by
  have hbefore := getElem?_mark_before (front.map (·.length))
    ((total (front.map (·.length)) + child.length) ::
      runningSumsFrom (total (front.map (·.length)) + child.length) (back.map (·.length)))
  rw [List.length_map] at hbefore
  rw [c.marks_split front back child hchildren, List.getElem?_toArray, hbefore]

omit hα in
theorem lengths_split (hnonneg : ∀ d ∈ c.children, 0 ≤ d.length) :
    (∀ l ∈ front.map (·.length), 0 ≤ l) ∧ 0 ≤ child.length ∧
      ∀ l ∈ back.map (·.length), 0 ≤ l := by
  rw [hchildren, List.forall_mem_append, List.forall_mem_cons] at hnonneg
  exact ⟨List.forall_mem_map.mpr hnonneg.1, hnonneg.2.1, List.forall_mem_map.mpr hnonneg.2.2⟩

variable (hnonneg : ∀ d ∈ c.children, 0 ≤ d.length) (t : α)
    (hlow : total (front.map (·.length)) ≤ t)
    (hhigh : t < total (front.map (·.length)) + child.length)

include hnonneg hlow hhigh

/-- The search finds the owner of a distance, and what the children in front leave of it. -/
theorem place?_owner : c.place? t = some (front.length, t - total (front.map (·.length))) := by
  rcases c.lengths_split front back child hchildren hnonneg with ⟨hfronts, hchild, hbacks⟩
  have hmarks := c.marks_split front back child hchildren
  have hfront := hα.total_nonneg _ hfronts
  -- The marks in front are at most their sum, and the others are at least the one of the owner.
  have hfound : firstBeyond c.marks t = front.length := by
    rw [hmarks, firstBeyond_append, length_runningSums, List.length_map]
    · intro m hm hbeyond
      have hbounds := hα.bounds_of_mem_runningSums _ hfronts m hm
      exact hα.not_le_of_lt hbeyond (hα.le_trans hbounds.2 hlow)
    · refine List.forall_mem_cons.mpr ⟨hhigh, fun m hm => ?_⟩
      have hbounds := hα.bounds_of_mem_runningSumsFrom _ _
        (hα.add_nonneg hfront hchild) hbacks m hm
      exact hα.lt_of_lt_of_le hhigh hbounds.1
  have hsize : c.marks.size = front.length + (back.length + 1) := by
    rw [marks, List.size_toArray, length_runningSums, List.length_map, hchildren,
      List.length_append, List.length_cons]
  -- The child is one of the chain's, so the bound on the index does not cut it off.
  have hindex : min front.length (c.marks.size - 1) = front.length := by omega
  have hstart := c.mark_before front back child hchildren
  unfold place? placeAmong?
  rw [if_neg (by omega), hfound, hindex]
  simp only [hstart]

omit hlow in
/-- What a child owns is within the chain. -/
theorem lt_length_of_owner : t < c.length := by
  rcases c.lengths_split front back child hchildren hnonneg with ⟨hfronts, hchild, hbacks⟩
  have hnext := hα.add_nonneg (hα.total_nonneg _ hfronts) hchild
  -- What is behind the child can only add to the length.
  have hrest := hα.le_foldl _ _ hnext hbacks
  rw [length, hchildren, List.map_append, List.map_cons, total, List.foldl_append,
    List.foldl_cons]
  exact hα.lt_of_lt_of_le hhigh hrest

/-- Within a chain the owner answers, and is asked for what the children in front leave. -/
theorem answerer?_owner (hpos : 0 < t) :
    c.answerer? t = some (child, t - total (front.map (·.length))) := by
  have hinside := c.lt_length_of_owner hα front back child hchildren hnonneg t hhigh
  have hplace := c.place?_owner hα front back child hchildren hnonneg t hlow hhigh
  refine c.answerer?_of_place? hα t hpos hinside _ _ hplace child ?_
  rw [hchildren, getElem?_split]

end Owner

end Chain

section Reals

/-- Lengths can be measured with real numbers. -/
theorem measures_real : Measures ℝ where
  zero_le := le_refl 0
  le_trans := le_trans
  lt_of_le_of_lt := lt_of_le_of_lt
  lt_of_lt_of_le := lt_of_lt_of_le
  le_of_lt := le_of_lt
  not_le_of_lt := not_le_of_gt
  lt_or_le _ _ := lt_or_ge _ _
  beq_zero_of_pos h := Bool.eq_false_iff.mpr (Scalar.not_real_beq h.ne')
  le_add _ h := le_add_of_nonneg_right h
  add_le _ _ h := add_le_of_nonpos_right h

/-- Over the real numbers a total is a sum. -/
theorem total_eq_sum (xs : List ℝ) : total xs = xs.sum := by
  have hfold : ∀ start : ℝ, xs.foldl (· + ·) start = start + xs.sum := by
    induction xs with
    | nil => exact fun start => (add_zero start).symm
    | cons x xs ih =>
        intro start
        rw [List.foldl_cons, ih, List.sum_cons, add_assoc]
  have htotal := hfold 0
  rw [zero_add] at htotal
  exact htotal

theorem Chain.length_eq_sum (c : Chain ℝ) : c.length = (c.children.map (·.length)).sum := by
  rw [length, total_eq_sum]

end Reals

end PlanarMotion
