import PlanarMotion.Vec

/-!
# Curves by Arclength

A curve is known here only by its length and by the pose it has after any distance
along it. Whatever can be walked along is a curve, and curves laid end to end make a
curve again: `Chain.curve`.

A chain has to find the child that owns a distance. The distances at which children
end are the running sums of their lengths, and the owner of `t` is the first child
that ends beyond `t`; a binary search over the sums finds it. A child without length
ends where it starts, so no distance strictly inside the chain belongs to it. The two
ends are answered by the first and the last child themselves, and a chain without any
length rests at a pose of its own.

## Main definitions

* `Curve`: A length, and a pose for each distance.
* `Curve.pose?`: A pose, unless it needs the sine of an infinite angle.
* `runningSums`: The sums of all nonempty initial parts of a list.
* `firstBeyond`: The index of the first mark beyond a number, by binary search.
* `Chain`: Curves end to end, and the pose to rest at.
* `Chain.place?`: The index of the child that owns a distance, and the distance within it.
* `Chain.curve`: A chain as one curve.

## Theorems

* `length_runningSums`: There is one running sum for each number.
* `getLastD_runningSums`: The last running sum is the total.
-/

namespace PlanarMotion

/-- What can be walked along. -/
structure Curve (α : Type) where
  /-- The distance from one end to the other. -/
  length : α
  /-- The pose after a distance; distances off the curve count as its ends. -/
  pose : α → Pose α
  /-- Whether the pose after a distance can be computed without the sine of an infinite
      angle. -/
  defined : α → Bool

namespace Curve

variable {α : Type} [Scalar α]

/-- The pose after a distance, unless it needs the sine of an infinite angle. -/
def pose? (c : Curve α) (t : α) : Except DomainError (Pose α) :=
  DomainError.guard (c.defined t) (c.pose t)

/-- The pose at the start. -/
def first (c : Curve α) : Pose α :=
  c.pose 0

/-- The pose at the end. -/
def last (c : Curve α) : Pose α :=
  c.pose c.length

end Curve

section Sums

variable {α : Type} [Scalar α]

/-- The running sums of a list, from an initial value. -/
def runningSumsFrom (start : α) : List α → List α
  | [] => []
  | x :: xs => (start + x) :: runningSumsFrom (start + x) xs

/-- The sums of all nonempty initial parts of a list. -/
def runningSums (xs : List α) : List α :=
  runningSumsFrom 0 xs

/-- The sum of a list, added up from its front. -/
def total (xs : List α) : α :=
  xs.foldl (· + ·) 0

/-- There is one running sum for each number, from any initial value. -/
theorem length_runningSumsFrom (start : α) (xs : List α) :
    (runningSumsFrom start xs).length = xs.length := by
  induction xs generalizing start with
  | nil => rfl
  | cons x xs ih => rw [runningSumsFrom, List.length_cons, List.length_cons, ih]

/-- There is one running sum for each number. -/
theorem length_runningSums (xs : List α) : (runningSums xs).length = xs.length :=
  length_runningSumsFrom 0 xs

/-- The last running sum is the sum of all numbers onto the initial value. -/
theorem getLastD_runningSumsFrom (start : α) (xs : List α) :
    (runningSumsFrom start xs).getLastD start = xs.foldl (· + ·) start := by
  induction xs generalizing start with
  | nil => rfl
  | cons x xs ih => rw [runningSumsFrom, List.getLastD_cons, ih, List.foldl_cons]

/-- The last running sum is the total; without numbers both stand at zero. -/
theorem getLastD_runningSums (xs : List α) : (runningSums xs).getLastD 0 = total xs :=
  getLastD_runningSumsFrom 0 xs

/-- The index of the first mark beyond `t` among those from `low` up to `high`, if the
    marks increase. -/
def firstBeyondWithin (marks : Array α) (t : α) (low high : Nat)
    (hhigh : high ≤ marks.size) : Nat :=
  if _h : low < high then
    let middle := (low + high) / 2
    have hmiddle : middle < marks.size := by omega
    if t < marks[middle] then firstBeyondWithin marks t low middle (by omega)
    else firstBeyondWithin marks t (middle + 1) high hhigh
  else low
termination_by high - low

/-- The index of the first mark beyond `t`, or the number of marks if there is none. -/
def firstBeyond (marks : Array α) (t : α) : Nat :=
  firstBeyondWithin marks t 0 marks.size (Nat.le_refl _)

end Sums

/-- Curves laid end to end. -/
structure Chain (α : Type) where
  /-- The curves in order. -/
  children : List (Curve α)
  /-- The pose of a chain without length. -/
  rest : Pose α

namespace Chain

variable {α : Type} [Scalar α]

/-- The distances at which the children end. -/
def marks (c : Chain α) : Array α :=
  (runningSums (c.children.map (·.length))).toArray

/-- The length of a chain. -/
def length (c : Chain α) : α :=
  total (c.children.map (·.length))

/-- The index of the child that owns a distance, and the distance within it. The last
    child owns all distances beyond the chain, and without children there is no owner. -/
def placeAmong? (marks : Array α) (t : α) : Option (Nat × α) :=
  if marks.size = 0 then none
  else
    -- A distance that is no number has no mark beyond it and goes to the last child.
    let index := min (firstBeyond marks t) (marks.size - 1)
    let start := if index = 0 then 0 else marks[index - 1]?.getD 0
    some (index, t - start)

/-- The index of the child that owns a distance, and the distance within it. -/
def place? (c : Chain α) (t : α) : Option (Nat × α) :=
  placeAmong? c.marks t

/-- The child that answers for a distance, and the distance to ask it for. The ends
    belong to the first and the last child; `none` means the chain rests. -/
def answererAmong? (children : Array (Curve α)) (marks : Array α) (length t : α) :
    Option (Curve α × α) :=
  if length == 0 then none
  else if t ≤ 0 then children[0]?.map fun child => (child, 0)
  else if length ≤ t then children[children.size - 1]?.map fun child => (child, child.length)
  else (placeAmong? marks t).bind fun (index, offset) =>
    children[index]?.map fun child => (child, offset)

/-- The child that answers for a distance, and the distance to ask it for. -/
def answerer? (c : Chain α) (t : α) : Option (Curve α × α) :=
  answererAmong? c.children.toArray c.marks c.length t

/-- A chain as one curve. -/
def curve (c : Chain α) : Curve α :=
  -- Shared by all poses, so the marks are not added up again for each.
  let children := c.children.toArray
  let marks := c.marks
  let length := c.length
  { length := length
    pose := fun t =>
      match answererAmong? children marks length t with
      | some (child, offset) => child.pose offset
      | none => c.rest
    defined := fun t =>
      match answererAmong? children marks length t with
      | some (child, offset) => child.defined offset
      | none => true }

end Chain

end PlanarMotion
