import PlanarMotion.Path.Curve

/-!
# Adding Up Lengths

A chain knows where its children start and end by the running sums of their lengths. That every
number within the total lies between two sums that follow each other, so that one child owns it,
sounds like a fact about real numbers. It is not: rounded sums will do, since rounding keeps the
order. What is needed is that comparison is an order of what can be a sum, that no sum goes down
when a length is added, and that it goes up only if the length is positive. `Measures` says just
this, of lengths that may be infinite but are numbers.

The induction is on the list of lengths, and the sum that has been reached is kept general. That it
is not negative is the invariant.

## Main definitions

* `Measures`: What adding up lengths needs of numbers.

## Theorems

* `runningSumsFrom_append`, `runningSums_split`, `getElem?_runningSums_split`: The running sums of
  a list that is split.
* `Measures.le_foldl`, `Measures.bounds_of_mem_runningSums`: Sums do not go down.
* `Measures.pos_of_lt_add`, `Measures.pos_of_between`: A length that adds something, or that has
  something in it, is positive.
* `Measures.exists_owner`: Every number within a total has an owner.
-/

namespace PlanarMotion

variable {α : Type} [Scalar α]

/-- What adding up lengths needs of numbers. Those that are compared with zero are numbers, and the
    others need not be. -/
structure Measures (α : Type) [Scalar α] : Prop where
  /-- Zero is not negative. -/
  zero_le : (0 : α) ≤ 0
  /-- Comparison is transitive. -/
  le_trans : ∀ {a b c : α}, a ≤ b → b ≤ c → a ≤ c
  /-- So is strict comparison, on the right. -/
  lt_of_le_of_lt : ∀ {a b c : α}, a ≤ b → b < c → a < c
  /-- And on the left. -/
  lt_of_lt_of_le : ∀ {a b c : α}, a < b → b ≤ c → a < c
  /-- Strict comparison is comparison. -/
  le_of_lt : ∀ {a b : α}, a < b → a ≤ b
  /-- It excludes the opposite one. -/
  not_le_of_lt : ∀ {a b : α}, a < b → ¬ b ≤ a
  /-- Numbers that are not negative can be compared. -/
  lt_or_le : ∀ {a b : α}, 0 ≤ a → 0 ≤ b → a < b ∨ b ≤ a
  /-- A positive number is not zero. -/
  beq_zero_of_pos : ∀ {a : α}, 0 < a → (a == 0) = false
  /-- A sum does not go down. -/
  le_add : ∀ {a x : α}, 0 ≤ a → 0 ≤ x → a ≤ a + x
  /-- It does not go up if there is nothing to add. -/
  add_le : ∀ {a x : α}, 0 ≤ a → 0 ≤ x → x ≤ 0 → a + x ≤ a

/-- Running sums go on with the sum of what is in front. -/
theorem runningSumsFrom_append (start : α) (xs ys : List α) :
    runningSumsFrom start (xs ++ ys)
      = runningSumsFrom start xs ++ runningSumsFrom (xs.foldl (· + ·) start) ys := by
  induction xs generalizing start with
  | nil => rfl
  | cons x xs ih =>
      rw [List.cons_append, runningSumsFrom, runningSumsFrom, ih, List.foldl_cons,
        List.cons_append]

/-- The running sums of a list that is split: those in front, the next one, and those behind. -/
theorem runningSums_split (front back : List α) (x : α) :
    runningSums (front ++ x :: back)
      = runningSums front ++ (total front + x) :: runningSumsFrom (total front + x) back := by
  rw [runningSums, runningSumsFrom_append]
  rfl

/-- The mark of the next one is the total of what is in front, and its own part. -/
theorem getElem?_runningSums_split (front back : List α) (x : α) :
    (runningSums (front ++ x :: back))[front.length]? = some (total front + x) := by
  rw [runningSums_split, ← length_runningSums front, List.getElem?_append_right (Nat.le_refl _),
    Nat.sub_self, List.getElem?_cons_zero]

namespace Measures

variable (hα : Measures α) {a t x : α}

include hα

theorem le_refl (ha : 0 ≤ a) : a ≤ a := by
  rcases hα.lt_or_le ha ha with hlt | hle
  · exact hα.le_of_lt hlt
  · exact hle

theorem add_nonneg (ha : 0 ≤ a) (hx : 0 ≤ x) : 0 ≤ a + x :=
  hα.le_trans ha (hα.le_add ha hx)

/-- Adding up does not go down. -/
theorem le_foldl (start : α) (xs : List α) (hstart : 0 ≤ start) (h : ∀ x ∈ xs, 0 ≤ x) :
    start ≤ xs.foldl (· + ·) start := by
  induction xs generalizing start with
  | nil => exact hα.le_refl hstart
  | cons x xs ih =>
      rw [List.forall_mem_cons] at h
      exact hα.le_trans (hα.le_add hstart h.1) (ih _ (hα.add_nonneg hstart h.1) h.2)

/-- The running sums are between the start and the sum. -/
theorem bounds_of_mem_runningSumsFrom (start : α) (xs : List α) (hstart : 0 ≤ start)
    (h : ∀ x ∈ xs, 0 ≤ x) (m : α) (hm : m ∈ runningSumsFrom start xs) :
    start ≤ m ∧ m ≤ xs.foldl (· + ·) start := by
  induction xs generalizing start with
  | nil => cases hm
  | cons x xs ih =>
      rw [List.forall_mem_cons] at h
      have hnext := hα.add_nonneg hstart h.1
      have hup := hα.le_add hstart h.1
      rw [runningSumsFrom, List.mem_cons] at hm
      -- The first mark is the start and one length; the others start from there.
      rcases hm with rfl | hm
      · exact ⟨hup, hα.le_foldl _ xs hnext h.2⟩
      · rcases ih (start + x) hnext h.2 hm with ⟨hlow, hhigh⟩
        exact ⟨hα.le_trans hup hlow, hhigh⟩

theorem bounds_of_mem_runningSums (xs : List α) (h : ∀ x ∈ xs, 0 ≤ x) (m : α)
    (hm : m ∈ runningSums xs) : 0 ≤ m ∧ m ≤ total xs :=
  hα.bounds_of_mem_runningSumsFrom 0 xs hα.zero_le h m hm

theorem total_nonneg (xs : List α) (h : ∀ x ∈ xs, 0 ≤ x) : 0 ≤ total xs :=
  hα.le_foldl 0 xs hα.zero_le h

/-- A length that adds something is positive. -/
theorem pos_of_lt_add (ha : 0 ≤ a) (hx : 0 ≤ x) (h : a < a + x) : 0 < x := by
  rcases hα.lt_or_le hα.zero_le hx with hpos | hzero
  · exact hpos
  · exact absurd (hα.add_le ha hx hzero) (hα.not_le_of_lt h)

/-- A length that something lies in is positive: without length the sum would not have gone up. -/
theorem pos_of_between (ha : 0 ≤ a) (hx : 0 ≤ x) (hlow : a ≤ t) (hhigh : t < a + x) : 0 < x :=
  hα.pos_of_lt_add ha hx (hα.lt_of_le_of_lt hlow hhigh)

variable {β : Type}

/-- Every number between a start and the sum from there has an owner. -/
theorem exists_owner_from (xs : List β) (length : β → α) (start : α) (hstart : 0 ≤ start)
    (h : ∀ x ∈ xs, 0 ≤ length x) (hlow : start ≤ t)
    (hhigh : t < (xs.map length).foldl (· + ·) start) :
    ∃ front x back, xs = front ++ x :: back ∧ (front.map length).foldl (· + ·) start ≤ t ∧
      t < (front.map length).foldl (· + ·) start + length x := by
  induction xs generalizing start with
  | nil => exact absurd hlow (hα.not_le_of_lt hhigh)
  | cons x xs ih =>
      rw [List.forall_mem_cons] at h
      have hnext := hα.add_nonneg hstart h.1
      -- The first one is the owner, or it is used up and one of the others is.
      rcases hα.lt_or_le (hα.le_trans hstart hlow) hnext with hown | hused
      · exact ⟨[], x, xs, rfl, hlow, hown⟩
      · rcases ih (start + length x) hnext h.2 hused hhigh with ⟨front, y, back, hxs, hbounds⟩
        exact ⟨x :: front, y, back, by rw [hxs, List.cons_append], hbounds⟩

/-- Every number within a total has an owner. -/
theorem exists_owner (xs : List β) (length : β → α) (h : ∀ x ∈ xs, 0 ≤ length x) (hlow : 0 ≤ t)
    (hhigh : t < total (xs.map length)) : ∃ front x back, xs = front ++ x :: back ∧
      total (front.map length) ≤ t ∧ t < total (front.map length) + length x :=
  hα.exists_owner_from xs length 0 hα.zero_le h hlow hhigh

end Measures

end PlanarMotion
