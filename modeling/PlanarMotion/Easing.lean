import PlanarMotion.Scalar.Basic

/-!
# Easing

How the progress of a phase depends on the fraction of its time that has passed. Each
curve maps the unit interval onto itself without going back and comes with its slope,
so that speed can be reported along with place.

The inverse of the cubic step has a closed form: with `t = s²(3 - 2s)` and
`s = 1/2 - sin θ`, the triple-angle formula gives `1 - 2t = sin 3θ`. Its slope comes
from the slope of the step and is vertical at both ends.

## Main definitions

* `CubicStep.rise`, `CubicStep.riseSlope`: The cubic step and its slope.
* `CubicStep.inverse`, `CubicStep.inverseSlope`: Its inverse.
* `Easing`: The five curves.
* `Easing.progress`, `Easing.slope`: Their values, with time kept in the unit interval.
-/

namespace PlanarMotion

namespace CubicStep

open PlanarMotion.Scalar

variable {α : Type} [Scalar α]

/-- The cubic step `3t² - 2t³`. -/
def rise (t : α) : α :=
  t * t * (ofNat 3 - two * t)

/-- The slope of the cubic step. -/
def riseSlope (t : α) : α :=
  ofNat 6 * t * (1 - t)

/-- The inverse of the cubic step: fast at both ends, slow in the middle. -/
def inverse (t : α) : α :=
  if t ≤ 0 then 0
  else if 1 ≤ t then 1
  else half - sin (asin (1 - two * t) / ofNat 3)

/-- The slope of the inverse, vertical at both ends. -/
def inverseSlope (t : α) : α :=
  let slope := riseSlope (inverse t)
  if slope ≤ 0 then infinity else 1 / slope

end CubicStep

/-- The curves that progress may follow. -/
inductive Easing where
  /-- Progress keeps pace with time. -/
  | uniform
  /-- A quarter of a sine wave: fast at first. -/
  | sine
  /-- A quarter of a cosine wave, upside down: slow at first. -/
  | cosine
  /-- The cubic step: slow at both ends. -/
  | smoothStep
  /-- The inverse of the cubic step: fast at both ends. -/
  | inverseSmoothStep
  deriving DecidableEq, Repr

namespace Easing

open PlanarMotion.Scalar

variable {α : Type} [Scalar α]

/-- The name of a curve. -/
def name : Easing → String
  | .uniform => "Uniform"
  | .sine => "Sine"
  | .cosine => "Cosine"
  | .smoothStep => "SmoothStep"
  | .inverseSmoothStep => "InverseSmoothStep"

/-- The names of all curves in alphabetical order. -/
def names : List String :=
  [cosine, inverseSmoothStep, sine, smoothStep, uniform].map name

/-- A fraction of time as a part of the quarter turn. -/
def quarterAngle (t : α) : α :=
  t * quarterTurn

/-- Progress at a fraction of time within the unit interval. -/
def curve (e : Easing) (t : α) : α :=
  match e with
  | .uniform => t
  | .sine => sin (quarterAngle t)
  | .cosine => 1 - cos (quarterAngle t)
  | .smoothStep => CubicStep.rise t
  | .inverseSmoothStep => CubicStep.inverse t

/-- The slope of progress at a fraction of time within the unit interval. -/
def curveSlope (e : Easing) (t : α) : α :=
  match e with
  | .uniform => 1
  | .sine => quarterTurn * cos (quarterAngle t)
  | .cosine => quarterTurn * sin (quarterAngle t)
  | .smoothStep => CubicStep.riseSlope t
  | .inverseSmoothStep => CubicStep.inverseSlope t

/-- Progress at any time, the time being kept in the unit interval. -/
def progress (e : Easing) (t : α) : α :=
  e.curve (clamp t 0 1)

/-- The slope of progress at any time, the time being kept in the unit interval. -/
def slope (e : Easing) (t : α) : α :=
  e.curveSlope (clamp t 0 1)

end Easing

end PlanarMotion
