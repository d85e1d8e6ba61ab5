import PlanarMotion.Easing
import PlanarMotion.Vec

/-!
# Motion Programs

A program is a list of phases, and a phase is a method, a duration and the statements
that draw its path. Statements are relative to a cursor, so the path of a phase depends
on all phases before it; the program itself is plain data.

## Main definitions

* `Statement`: One step of drawing.
* `Method`: How a phase spends its time.
* `Phase`, `Program`: The program tree.
* `Program.Valid`: What every program that can be built satisfies.

## Theorems

* `Method.ofName?_name`: A method is found by its name.
-/

namespace PlanarMotion

/-- One step of drawing. Points are absolute; the continuing forms leave the cursor along
    its direction. -/
inductive Statement (α : Type) where
  /-- Moves the cursor without drawing. -/
  | start (point : Vec α)
  /-- Draws a line to a point. -/
  | line (stop : Vec α)
  /-- Draws a line of a given length straight on. -/
  | lineContinue (length : α)
  /-- Turns around a center by a signed angle. -/
  | arc (center : Vec α) (angle : α)
  /-- Turns with a given radius by a signed angle, leaving straight on. -/
  | arcContinue (radius angle : α)
  /-- Draws a cubic Bezier curve as a number of chords. -/
  | bezier (c1 c2 stop : Vec α) (segments : Nat)
  /-- Draws a cubic Bezier curve that leaves straight on. -/
  | bezierContinue (c1Offset : α) (c2 stop : Vec α) (segments : Nat)
  deriving DecidableEq, Repr

namespace Statement

variable {α : Type}

/-- The name of a kind of statement. -/
def kind : Statement α → String
  | .start .. => "Start"
  | .line .. => "Line"
  | .lineContinue .. => "LineContinue"
  | .arc .. => "Arc"
  | .arcContinue .. => "ArcContinue"
  | .bezier .. => "Bezier"
  | .bezierContinue .. => "BezierContinue"

/-- A curve needs at least one chord. -/
def Valid : Statement α → Prop
  | .bezier _ _ _ segments => 0 < segments
  | .bezierContinue _ _ _ segments => 0 < segments
  | _ => True

instance (s : Statement α) : Decidable s.Valid := by
  cases s <;> simp only [Valid] <;> infer_instance

end Statement

/-- How a phase spends its time. -/
inductive Method where
  /-- At constant speed. -/
  | uniform
  /-- Fast at first. -/
  | sine
  /-- Slow at first. -/
  | cosine
  /-- Slow at both ends. -/
  | smoothStep
  /-- Fast at both ends. -/
  | inverseSmoothStep
  /-- Waiting; a path is still walked, at constant speed. -/
  | wait
  deriving DecidableEq, Repr

namespace Method

/-- All methods. -/
def all : List Method :=
  [.uniform, .sine, .cosine, .smoothStep, .inverseSmoothStep, .wait]

/-- The name of a method. -/
def name : Method → String
  | .uniform => "Uniform"
  | .sine => "Sine"
  | .cosine => "Cosine"
  | .smoothStep => "SmoothStep"
  | .inverseSmoothStep => "InverseSmoothStep"
  | .wait => "Wait"

/-- The method of a given name. -/
def ofName? (name : String) : Option Method :=
  all.find? fun m => m.name == name

/-- The report on a name that is none of a method. -/
def unknownMessage (name : String) : String :=
  "'" ++ name ++ "' is not a valid MoverMethod"

/-- The curve that progress follows. -/
def easing : Method → Easing
  | .uniform => .uniform
  | .sine => .sine
  | .cosine => .cosine
  | .smoothStep => .smoothStep
  | .inverseSmoothStep => .inverseSmoothStep
  | .wait => .uniform

/-- A method is found by its name. -/
theorem ofName?_name (m : Method) : ofName? m.name = some m := by
  cases m <;> decide

end Method

/-- One phase: a method, a duration and a path. -/
structure Phase (α : Type) where
  /-- How time is spent. -/
  method : Method
  /-- How long the phase takes. -/
  duration : α
  /-- The steps that draw its path. -/
  statements : List (Statement α)
  deriving DecidableEq, Repr

/-- Phases in order. -/
structure Program (α : Type) where
  /-- The phases. -/
  phases : List (Phase α)
  deriving DecidableEq, Repr

namespace Program

variable {α : Type} [Scalar α]

/-- The duration is not negative and every curve has a chord. -/
def PhaseValid (p : Phase α) : Prop :=
  0 ≤ p.duration ∧ ∀ s ∈ p.statements, s.Valid

instance (p : Phase α) : Decidable (PhaseValid p) :=
  inferInstanceAs (Decidable (_ ∧ _))

/-- What every program that can be built satisfies. -/
def Valid (p : Program α) : Prop :=
  ∀ phase ∈ p.phases, PhaseValid phase

instance (p : Program α) : Decidable p.Valid :=
  inferInstanceAs (Decidable (∀ phase ∈ p.phases, PhaseValid phase))

end Program

end PlanarMotion
