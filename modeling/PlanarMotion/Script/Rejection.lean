import PlanarMotion.Script.Token

/-!
# Why a Text Is No Program

A text is rejected at the first token that does not fit. The cause says what was wanted
there; its wording is one function.

## Main definitions

* `NumberRole`: What a number is wanted for.
* `Rejection`: What was wanted and not found.
* `Rejection.message`: Its wording.
-/

namespace PlanarMotion

namespace Script

/-- What a number is wanted for. -/
inductive NumberRole where
  /-- The duration of a phase. -/
  | duration
  /-- The abscissa of a vector. -/
  | abscissa
  /-- The ordinate of a vector. -/
  | ordinate
  /-- An argument of a statement. -/
  | argument (owner : String)
  deriving DecidableEq, Repr

/-- The wish for a number in words. -/
def NumberRole.message : NumberRole → String
  | .duration => "Expected duration number"
  | .abscissa => "Expected number for x"
  | .ordinate => "Expected number for y"
  | .argument owner => "Expected number argument for " ++ owner

/-- What was wanted and not found. -/
inductive Rejection where
  /-- A given word. -/
  | word (w : String)
  /-- A given mark. -/
  | mark (m : Mark)
  /-- The word that starts a vector. -/
  | vector
  /-- A vector with a given role, for a cause within it. -/
  | within (role : String) (cause : Rejection)
  /-- The name of a method. -/
  | methodName
  /-- A method with this name. -/
  | unknownMethod (name : String)
  /-- A number. -/
  | number (role : NumberRole)
  /-- A number that a double can hold. -/
  | finiteNumber
  /-- A duration that is not below zero. -/
  | nonNegativeDuration
  /-- A number of chords: whole and at least one. -/
  | wholeSegments (owner : String)
  /-- A placeholder in front of or behind the arrow. -/
  | placeholder
  /-- The same placeholder on both sides of the arrow. -/
  | samePlaceholder
  /-- More statements or the end of a phase. -/
  | phaseEnd
  deriving DecidableEq, Repr

/-- The wording of a rejection. -/
def Rejection.message : Rejection → String
  | .word w => "Expected '" ++ w ++ "'"
  | .mark m => "Expected '" ++ String.ofList [m.char] ++ "'"
  | .vector => "Expected Vector2 'new'"
  | .within role cause => "Expected " ++ role ++ ": " ++ cause.message
  | .methodName => "Expected method name"
  | .unknownMethod name => "Unknown method name: " ++ name
  | .number role => role.message
  | .finiteNumber => "Expected finite number"
  | .nonNegativeDuration => "Expected non-negative duration"
  | .wholeSegments owner => "Expected positive whole number for " ++ owner ++ " segments"
  | .placeholder => "Expected placeholder identifier"
  | .samePlaceholder => "Placeholder identifiers do not match"
  | .phaseEnd => "Unexpected end of input in method body"

end Script

end PlanarMotion
