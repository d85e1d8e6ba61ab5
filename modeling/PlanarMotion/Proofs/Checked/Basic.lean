import PlanarMotion.Vec
import Mathlib.Data.List.Forall2

/-!
# Operations That May Fault

Every operation of this library has an answer, and four of them have one only because there is
no better way to go on: the sine of an infinity, the arcsine of a number beyond one, a quotient
by zero, and the element of a list at an index that it does not have. Here each of the four
refuses instead. A computation that is written with these says more than one that is not: if
it has an answer, it has applied none of the operations where they mean nothing.

Which computations never fault depends on the numbers. `Tame` lists what is needed of them. It
speaks of numbers that are not infinite, which may be no numbers at all, and of numbers that
do not exceed a bound, which again may be none. Nothing in it says that an operation is exact.

## Main definitions

* `Fault`: What an operation refuses.
* `Checked.sine`, `Checked.arcsine`, `Checked.quotient`, `Checked.element`: The operations.
* `Checked.normalized`, `Checked.ofAngle`: Vectors by quotients and by sines.
* `Checked.neighbours`: A function of all pairs of neighbours in a list, looked up by index.
* `Calm`, `Within`: Not infinite, and not beyond a bound.
* `Tame`: What no fault needs of the numbers.

## Theorems

* `Checked.mapM_eq_of_forall₂`, `Checked.mapM_eq`: A list of answers.
* `Checked.neighbours_eq`: Looking up neighbours stays within a list.
* `Checked.arcsine_eq`, `Checked.cosine_eq`, `Checked.sine_eq`: Where there is no fault.
-/

namespace PlanarMotion

/-- What an operation refuses. -/
inductive Fault where
  /-- The sine or cosine of an infinite angle. -/
  | infiniteAngle
  /-- The arcsine of a number that is no sine. -/
  | arcsineDomain
  /-- A quotient or a remainder by zero. -/
  | zeroDivisor
  /-- An index beyond a list. -/
  | missingElement
  deriving DecidableEq, Repr

/-- A domain error as a fault. -/
def Fault.ofDomain : DomainError → Fault
  | .infiniteAngle => .infiniteAngle

/-- An answer that may be refused for an infinite angle, among those that may fault. -/
def refused {β : Type} (answer : Except DomainError β) : Except Fault β :=
  answer.mapError Fault.ofDomain

variable {α : Type} [Scalar α]

/-- A number that is not infinite. It may be none. -/
def Calm (x : α) : Prop :=
  Scalar.isInfinite x = false

/-- A number whose size does not exceed a bound. It may be none. -/
def Within (bound x : α) : Prop :=
  ¬ bound < x ∧ ¬ x < -bound

/-- What no fault needs of the numbers. -/
structure Tame (α : Type) [Scalar α] : Prop where
  /-- Zero is a divisor that is refused. -/
  zero_beq : ((0 : α) == 0) = true
  /-- A count is none. -/
  ofNat_beq : ∀ n, 0 < n → ((Scalar.ofNat n : α) == 0) = false
  /-- Nor is a full turn. -/
  turn_beq : ((Scalar.turn : α) == 0) = false
  /-- Nor is what fails to be at most zero. -/
  beq_of_not_le : ∀ x : α, ¬ x ≤ 0 → (x == 0) = false
  /-- What has been clamped to the unit interval is within one. -/
  within_clamp : ∀ t : α, Within 1 (Scalar.clamp t 0 1)
  /-- So is what a fraction is from the middle, doubled. -/
  within_centered : ∀ t : α, ¬ t ≤ 0 → ¬ 1 ≤ t → Within 1 (1 - Scalar.two * t)
  /-- The part of a length that has been passed is within one of the length. -/
  within_part : ∀ t length : α, (length == 0) = false →
    Within 1 (Scalar.clamp t 0 length / length)
  /-- Directions are within a turn. -/
  within_atan2 : ∀ y x : α, Within Scalar.turn (Scalar.atan2 y x)
  /-- So is what wrapping leaves. -/
  within_wrapAngle : ∀ x : α, Within Scalar.turn (Scalar.wrapAngle x)
  /-- So is a quarter of a turn. -/
  within_quarterTurn : Within Scalar.turn (Scalar.quarterTurn : α)
  /-- Its opposite is too. -/
  within_neg_quarterTurn : Within Scalar.turn (-Scalar.quarterTurn : α)
  /-- A turn is not infinite. -/
  calm_of_within : ∀ x : α, Within Scalar.turn x → Calm x
  /-- A sum with what is within a turn does not overflow. -/
  calm_add : ∀ x y : α, Calm x → Within Scalar.turn y → Calm (x + y)
  /-- The other way around neither. -/
  calm_add_left : ∀ x y : α, Calm x → Within Scalar.turn y → Calm (y + x)
  /-- A difference does not overflow either. -/
  calm_sub : ∀ x y : α, Calm x → Within Scalar.turn y → Calm (x - y)
  /-- A part of a number does not overflow. -/
  calm_mul : ∀ x q : α, Calm x → Within 1 q → Calm (x * q)
  /-- The other way around neither. -/
  calm_mul_left : ∀ x q : α, Calm x → Within 1 q → Calm (q * x)
  /-- An opposite is not infinite if the number is not. -/
  calm_neg : ∀ x : α, Calm x → Calm (-x)
  /-- The sweep that is written where a sign is held back is not infinite. -/
  calm_minimalSweep : Calm (1 / Scalar.ofNat 100 : α)
  /-- A third of an arcsine is not infinite. -/
  calm_arcsine : ∀ x : α, Within 1 x → Calm (Scalar.asin x / Scalar.ofNat 3)
  /-- An infinite angle has no way around from it, so it does not stay when it is changed by
      one. -/
  calm_turned : ∀ angle base target : α, ¬ Calm angle → Within Scalar.turn target →
    Calm (angle + Scalar.wrapAngle (target - (base + angle)))

namespace Checked

/-- The sine, unless the angle is infinite. -/
def sine (x : α) : Except Fault α :=
  if Scalar.isInfinite x then .error .infiniteAngle else .ok (Scalar.sin x)

/-- The cosine, unless the angle is infinite. -/
def cosine (x : α) : Except Fault α :=
  if Scalar.isInfinite x then .error .infiniteAngle else .ok (Scalar.cos x)

/-- The arcsine, unless the number is beyond one. -/
def arcsine (x : α) : Except Fault α :=
  if x < -1 ∨ 1 < x then .error .arcsineDomain else .ok (Scalar.asin x)

/-- A quotient, unless the divisor is zero. -/
def quotient (x y : α) : Except Fault α :=
  if y == 0 then .error .zeroDivisor else .ok (x / y)

/-- A remainder, unless the divisor is zero. -/
def remainder (x y : α) : Except Fault α :=
  if y == 0 then .error .zeroDivisor else .ok (Scalar.modulo x y)

/-- The element at an index, unless the list is too short. -/
def element {β : Type} (xs : List β) (index : Nat) : Except Fault β :=
  match xs[index]? with
  | some x => .ok x
  | none => .error .missingElement

/-- A function of all pairs of neighbours, looked up one after the other. -/
def neighbours {β γ : Type} (f : β → β → γ) (xs : List β) : Except Fault (List γ) :=
  (List.range (xs.length - 1)).mapM fun index => do
    return f (← element xs index) (← element xs (index + 1))

/-- The vector of length one in the same direction. -/
def normalized (a : Vec α) : Except Fault (Vec α) :=
  if a.length == 0 then .ok Vec.zero
  else do return ⟨← quotient a.x a.length, ← quotient a.y a.length⟩

/-- The vector at an angle. -/
def ofAngle (angle radius : α) : Except Fault (Vec α) := do
  return ⟨radius * (← cosine angle), radius * (← sine angle)⟩

theorem sine_eq (x : α) (h : Calm x) : sine x = .ok (Scalar.sin x) := by
  unfold Calm at h
  unfold sine
  rw [h]
  rfl

theorem cosine_eq (x : α) (h : Calm x) : cosine x = .ok (Scalar.cos x) := by
  unfold Calm at h
  unfold cosine
  rw [h]
  rfl

theorem arcsine_eq (x : α) (h : Within 1 x) : arcsine x = .ok (Scalar.asin x) := by
  unfold arcsine
  rw [if_neg (fun hbeyond => hbeyond.elim h.2 h.1)]

theorem quotient_eq (x y : α) (h : (y == 0) = false) : quotient x y = .ok (x / y) := by
  unfold quotient
  rw [h]
  rfl

theorem remainder_eq (x y : α) (h : (y == 0) = false) :
    remainder x y = .ok (Scalar.modulo x y) := by
  unfold remainder
  rw [h]
  rfl

theorem element_eq {β : Type} (xs : List β) (index : Nat) (x : β) (h : xs[index]? = some x) :
    element xs index = .ok x := by
  unfold element
  rw [h]

theorem refused_guard_bind {β γ : Type} (d e : Bool) (x : β) (y : γ) (f : β → Except Fault γ)
    (h : f x = refused (DomainError.guard e y)) :
    (refused (DomainError.guard d x) >>= f) = refused (DomainError.guard (d && e) y) := by
  cases d with
  | false => rfl
  | true => exact h

theorem refused_guard_map {β γ : Type} (d : Bool) (x : β) (f : β → γ) :
    (refused (DomainError.guard d x) >>= fun y => pure (f y))
      = refused (DomainError.guard d (f x)) := by
  cases d <;> rfl

theorem ok_bind {β γ : Type} (x : β) (f : β → Except Fault γ) : (Except.ok x >>= f) = f x :=
  rfl

/-- If there is an answer for each element, there is one for the list. -/
theorem mapM_eq_of_forall₂ {β γ : Type} (f : β → Except Fault γ) (xs : List β) (ys : List γ)
    (h : List.Forall₂ (fun x y => f x = .ok y) xs ys) : xs.mapM f = .ok ys := by
  induction h with
  | nil => rfl
  | cons hx hxs ih =>
      -- The head is answered first and the rest after it.
      rw [List.mapM_cons, hx, ih]
      rfl

theorem mapM_eq {β γ : Type} (f : β → Except Fault γ) (g : β → γ) (xs : List β)
    (h : ∀ x ∈ xs, f x = .ok (g x)) : xs.mapM f = .ok (xs.map g) := by
  refine mapM_eq_of_forall₂ f xs _ ?_
  rw [List.forall₂_map_right_iff, List.forall₂_same]
  exact h

/-- Looking up neighbours stays within a list, since the last element has none behind it. -/
theorem neighbours_eq {β γ : Type} (f : β → β → γ) (xs : List β) :
    neighbours f xs = .ok (List.zipWith f xs xs.tail) := by
  refine mapM_eq_of_forall₂ _ _ _ (List.forall₂_iff_get.mpr ⟨?_, ?_⟩)
  · rw [List.length_range, List.length_zipWith, List.length_tail]
    omega
  · intro index hrange hzip
    rw [List.length_range] at hrange
    -- Neither index is past the end, since the range stops one before it.
    have hfirst := element_eq xs index _ (List.getElem?_eq_getElem (by omega))
    have hsecond := element_eq xs (index + 1) _ (List.getElem?_eq_getElem (by omega))
    simp only [List.get_eq_getElem, List.getElem_range, List.getElem_zipWith, List.getElem_tail,
      hfirst, hsecond]
    rfl

/-- Normalizing never faults, since a vector without length is asked no quotient. -/
theorem normalized_eq (a : Vec α) : normalized a = .ok a.normalized := by
  unfold normalized Vec.normalized
  cases hzero : a.length == 0 with
  | true => simp only [hzero, if_true]
  | false =>
      -- The length is no zero, so it may divide both coordinates.
      rw [quotient_eq _ _ hzero, quotient_eq _ _ hzero]
      simp only [hzero]
      rfl

/-- The vector at an angle is refused exactly if the angle is infinite. -/
theorem ofAngle_eq (angle radius : α) :
    ofAngle angle radius
      = refused (Vec.ofAngle? angle radius) := by
  unfold ofAngle Vec.ofAngle? cosine sine
  -- Both functions refuse at the same angles.
  cases Scalar.isInfinite angle <;> rfl

end Checked

end PlanarMotion
