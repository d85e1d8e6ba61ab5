import PlanarMotion.Number.Fixed
import PlanarMotion.Number.Shortest
import PlanarMotion.Program.Basic

/-!
# Printing Programs

The canonical text of a program has one line for each statement and two for each phase.
Coordinates have three places and the size mark; a zero is printed without a sign.
Durations keep their exact value: a whole one is printed as an integer, of any length,
and any other in the fewest digits that read back.

The text is built as a list of characters, which is the form that the tokenizer takes
apart again.

## Main definitions

* `numberText`, `durationText`, `vectorText`: The parts of a line.
* `statementText`: One statement.
* `programLines`: The lines of a program.
* `print`: The canonical text.
-/

namespace PlanarMotion

namespace Script

open PlanarMotion.Number

/-- Three places and the size mark; a number that rounds to zero loses its sign. -/
def numberText (x : Float) : List Char :=
  let text := fixed 3 x
  (if text = "-0.000".toList then "0.000".toList else text) ++ ['f']

/-- A vector, as the call that makes it. -/
def vectorText (v : Vec Float) : List Char :=
  "new Vector2(".toList ++ numberText v.x ++ ", ".toList ++ numberText v.y ++ [')']

/-- A whole duration as an integer, any other in the fewest digits that read back. -/
def durationText (x : Float) : List Char :=
  let b := Binary64.ofFloat x
  match b.magnitude.whole? with
  | some n => signed (b.negative && n != 0) (digits n)
  | none => shortest x

/-- Parts with a comma and a space between them. -/
def commaSeparated (parts : List (List Char)) : List Char :=
  ", ".toList.intercalate parts

/-- The arguments of a statement. -/
def argumentTexts : Statement Float → List (List Char)
  | .start point => [vectorText point]
  | .line stop => [vectorText stop]
  | .lineContinue length => [numberText length]
  | .arc center angle => [vectorText center, numberText angle]
  | .arcContinue radius angle => [numberText radius, numberText angle]
  | .bezier c1 c2 stop segments =>
    [vectorText c1, vectorText c2, vectorText stop, digits segments]
  | .bezierContinue c1Offset c2 stop segments =>
    [numberText c1Offset, vectorText c2, vectorText stop, digits segments]

/-- A statement, as a call. -/
def statementText (s : Statement Float) : List Char :=
  '.' :: s.kind.toList ++ '(' :: commaSeparated (argumentTexts s) ++ [')']

/-- The lines of a phase, of which the last may close the program. -/
def phaseLines (p : Phase Float) (last : Bool) : List (List Char) :=
  let opening := "  .".toList ++ p.method.name.toList ++ '(' :: durationText p.duration
    ++ ", e => e".toList
  let closing := if last then "  );".toList else "  )".toList
  opening :: p.statements.map (fun s => "    ".toList ++ statementText s) ++ [closing]

/-- The lines of phases, of which the last closes the program. -/
def phasesLines : List (Phase Float) → List (List Char)
  | [] => []
  | [p] => phaseLines p true
  | p :: rest => phaseLines p false ++ phasesLines rest

/-- The lines of a program. Without phases there is a single one. -/
def programLines (p : Program Float) : List (List Char) :=
  if p.phases.isEmpty then ["new MoverBuilder();".toList]
  else "new MoverBuilder()".toList :: phasesLines p.phases

/-- The characters of the canonical text; every line ends with a line feed. -/
def printChars (p : Program Float) : List Char :=
  (programLines p).flatMap (· ++ ['\n'])

/-- The canonical text of a program. -/
def print (p : Program Float) : String :=
  String.ofList (printChars p)

end Script

end PlanarMotion
