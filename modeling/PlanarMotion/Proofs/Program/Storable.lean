import PlanarMotion.Proofs.Number.Thousandths
import PlanarMotion.Program.Basic

/-!
# Programs That Texts Hold

A text holds finite numbers and counts that a double can be, so a program with others has
no text that could be read back. `Storable` says that a program has none of them. It is
kept apart from `Program.Valid`, which is about what can be built at all.

A text does not hold a program exactly. Literals are cut to three places, and the duration
zero has no sign. `Program.rounded` is the program that is left, and it changes numbers
only: the phases, their methods, the kinds of their statements and the counts of chords are
those of the program itself, because it is a map over the tree.

## Main definitions

* `Statement.map`: A statement with its literals replaced.
* `Statement.literals`, `Statement.segments?`: The numbers of a statement.
* `Representable`: A count that a double can be.
* `Program.Storable`: A program of finite numbers and such counts.
* `Program.rounded`: What a text keeps of a program.

## Theorems

* `Statement.kind_map`, `Statement.literals_map`, `Statement.segments?_map`: What replacing
  literals does to a statement.
* `value_unsigned`: A duration keeps its value.
-/

namespace PlanarMotion

open PlanarMotion.Number

namespace Statement

variable {α β : Type}

/-- A statement with its literals replaced. -/
def map (f : α → β) : Statement α → Statement β
  | .start point => .start ⟨f point.x, f point.y⟩
  | .line stop => .line ⟨f stop.x, f stop.y⟩
  | .lineContinue length => .lineContinue (f length)
  | .arc center angle => .arc ⟨f center.x, f center.y⟩ (f angle)
  | .arcContinue radius angle => .arcContinue (f radius) (f angle)
  | .bezier c1 c2 stop segments =>
    .bezier ⟨f c1.x, f c1.y⟩ ⟨f c2.x, f c2.y⟩ ⟨f stop.x, f stop.y⟩ segments
  | .bezierContinue c1Offset c2 stop segments =>
    .bezierContinue (f c1Offset) ⟨f c2.x, f c2.y⟩ ⟨f stop.x, f stop.y⟩ segments

/-- The numbers in a statement, apart from the count of chords. -/
def literals : Statement α → List α
  | .start point => [point.x, point.y]
  | .line stop => [stop.x, stop.y]
  | .lineContinue length => [length]
  | .arc center angle => [center.x, center.y, angle]
  | .arcContinue radius angle => [radius, angle]
  | .bezier c1 c2 stop _ => [c1.x, c1.y, c2.x, c2.y, stop.x, stop.y]
  | .bezierContinue c1Offset c2 stop _ => [c1Offset, c2.x, c2.y, stop.x, stop.y]

/-- The count of chords of a curve. -/
def segments? : Statement α → Option Nat
  | .bezier _ _ _ segments => some segments
  | .bezierContinue _ _ _ segments => some segments
  | _ => none

theorem kind_map (f : α → β) (s : Statement α) : (s.map f).kind = s.kind := by
  cases s <;> rfl

theorem literals_map (f : α → β) (s : Statement α) : (s.map f).literals = s.literals.map f := by
  cases s <;> rfl

theorem segments?_map (f : α → β) (s : Statement α) : (s.map f).segments? = s.segments? := by
  cases s <;> rfl

end Statement

/-- A count that a double can be. -/
def Representable (n : Nat) : Prop :=
  ∃ x : Float, x.isFinite = true ∧ value x = n

/-- A statement of finite literals and a count that a double can be. -/
structure Statement.Storable (s : Statement Float) : Prop where
  /-- Literals are finite. -/
  finite : ∀ x ∈ s.literals, x.isFinite = true
  /-- A double can be the count of chords. -/
  counts : ∀ n ∈ s.segments?, Representable n

/-- A phase of finite numbers and counts that doubles can be. -/
structure Phase.Storable (p : Phase Float) : Prop where
  /-- The duration is finite. -/
  finite : p.duration.isFinite = true
  /-- So are the literals of the statements. -/
  statements : ∀ s ∈ p.statements, s.Storable

/-- A program of finite numbers and counts that doubles can be. -/
def Program.Storable (p : Program Float) : Prop :=
  ∀ phase ∈ p.phases, phase.Storable

/-- What a text keeps of a phase. -/
def Phase.rounded (p : Phase Float) : Phase Float :=
  ⟨p.method, unsigned p.duration, p.statements.map (Statement.map Number.rounded)⟩

/-- What a text keeps of a program: its tree, with literals cut to three places and with
    no sign on a zero. -/
def Program.rounded (p : Program Float) : Program Float :=
  ⟨p.phases.map Phase.rounded⟩

theorem isFinite_rounded (x : Float) (h : x.isFinite = true) :
    (Number.rounded x).isFinite = true :=
  (isFinite_iff _).mpr (rounded_finite x ((isFinite_iff x).mp h))

theorem magnitudeWord_unsigned (x : Float) (h : magnitudeWord x < infinityWord) :
    magnitudeWord (unsigned x) = magnitudeWord x :=
  magnitudeWord_floatOfWord false _ h.le

theorem isFinite_unsigned (x : Float) (h : x.isFinite = true) :
    (unsigned x).isFinite = true := by
  rw [isFinite_iff] at h ⊢
  rw [magnitudeWord_unsigned x h]
  exact h

/-- A duration keeps its value: only a zero has a sign to lose. -/
theorem value_unsigned (x : Float) (h : magnitudeWord x < infinityWord) (hnonneg : 0 ≤ value x) :
    value (unsigned x) = value x := by
  have hsign : signOf (unsigned x) = 1 := by
    rw [unsigned, signOf_floatOfWord false _ h.le]
    rfl
  -- The bits below the sign are kept, and with them the units.
  have hunits : unitsOf (unsigned x) = unitsOf x := by
    rw [unsigned, unitsOf_floatOfWord false _ h, unitsOf_of_finite x h]
  rw [value, hsign, hunits, one_mul, ← abs_value, abs_of_nonneg hnonneg]

end PlanarMotion
