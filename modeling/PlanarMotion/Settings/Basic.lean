import PlanarMotion.Settings.EnvFile
import PlanarMotion.Text.Argument
import PlanarMotion.Text.Value

/-!
# Settings

Five settings, each with a default. A value given directly counts before one from the
environment, and that before one from a file of variables. In the latter two a setting
is named with a prefix. The case of a name never matters; of names that differ in nothing
else the first one counts among the values given directly, and the last one among
variables.

Values that are no setting are ignored. A value that does not fit its setting is
reported by the setting's name, and all such names are reported at once.

## Main definitions

* `Settings`: The settings.
* `Settings.Field`: Their names.
* `Settings.load`: The settings from all sources, or the fields whose values do not fit.
-/

namespace PlanarMotion

/-- The settings. -/
structure Settings where
  /-- How many chords approximate a Bezier curve if nothing is said. -/
  bezierSegments : Int := 100
  /-- How many intervals a motion is sampled at if nothing is said. -/
  sampleSteps : Int := 10
  /-- The name of the least level that is logged. -/
  logLevel : String := "INFO"
  /-- Whether log lines are JSON objects. -/
  logJson : Bool := false
  /-- A file that takes the log lines too. -/
  logFile : Option String := none
  deriving DecidableEq, Repr

namespace Settings

/-- The settings by name. -/
inductive Field where
  /-- How many chords approximate a Bezier curve. -/
  | bezierSegments
  /-- The file that takes log lines. -/
  | logFile
  /-- Whether log lines are JSON objects. -/
  | logJson
  /-- The least level that is logged. -/
  | logLevel
  /-- How many intervals a motion is sampled at. -/
  | sampleSteps
  deriving DecidableEq, Repr

/-- The name of a setting. -/
def Field.name : Field → String
  | .bezierSegments => "default_bezier_segments"
  | .logFile => "log_file"
  | .logJson => "log_json"
  | .logLevel => "log_level"
  | .sampleSteps => "sample_steps"

/-- All settings in the alphabetical order of their names. -/
def Field.all : List Field :=
  [.bezierSegments, .logFile, .logJson, .logLevel, .sampleSteps]

/-- What the names of variables start with. -/
def variablePrefix : String :=
  "path_mover_"

/-- Whether a name means a setting, given what is put in front of settings' names. -/
def Field.isNamed (f : Field) (lead name : String) : Bool :=
  name.map Char.toLower == lead ++ f.name

/-- The text that variables give a setting. The last variable of the name counts, also if
    it has no text. -/
def Field.variableText? (f : Field) (known : List EnvFile.Variable) : Option String :=
  (known.reverse.find? fun v => f.isNamed variablePrefix v.name).bind (·.text)

/-- The value given directly for a setting. -/
def Field.directValue? (f : Field) (given : List (String × Value)) : Option Value :=
  (given.find? fun (name, _) => f.isNamed "" name).map (·.2)

/-- A truth value from a text, in any case. -/
def boolOfText? (text : String) : Option Bool :=
  let word := text.map Char.toLower
  if ["1", "on", "t", "true", "y", "yes"].contains word then some true
  else if ["0", "off", "f", "false", "n", "no"].contains word then some false
  else none

/-- Doubles of this size and above count as no integers: two to the power of 63. -/
def integerBound : Nat :=
  0x8000000000000000

/-- An integer from a value: a whole double is one, and a truth value counts as 0 or 1. -/
def integerOfValue? : Value → Option Int
  | .integer n => some n
  | .bool b => some (if b then 1 else 0)
  | .text s => Text.integerOfText? s
  | .number x =>
    let b := Number.Binary64.ofFloat x
    (b.magnitude.whole?.filter (· < integerBound)).map fun n =>
      if b.negative then -(n : Int) else n
  | _ => none

/-- A truth value from a value. -/
def boolOfValue? : Value → Option Bool
  | .bool b => some b
  | .text s => boolOfText? s
  | v =>
    match integerOfValue? v with
    | some 0 => some false
    | some 1 => some true
    | _ => none

/-- Sets a setting, if the value fits it. -/
def set? (s : Settings) (f : Field) (v : Value) : Option Settings :=
  match f with
  | .bezierSegments =>
    ((integerOfValue? v).filter (0 < ·)).map fun n => { s with bezierSegments := n }
  | .sampleSteps =>
    ((integerOfValue? v).filter (0 < ·)).map fun n => { s with sampleSteps := n }
  | .logJson => (boolOfValue? v).map fun b => { s with logJson := b }
  | .logLevel =>
    match v with
    | .text t => some { s with logLevel := t }
    | _ => none
  | .logFile =>
    match v with
    | .text t => some { s with logFile := some t }
    | .none => some { s with logFile := none }
    | _ => none

/-- Where settings come from. -/
structure Sources where
  /-- Values given directly, by name. -/
  direct : List (String × Value) := []
  /-- The variables of the environment. -/
  environment : List (String × String) := []
  /-- The text of a file of variables. -/
  file : Option String := none

/-- The value that the sources give a setting. -/
def Sources.value? (sources : Sources) (f : Field) : Option Value :=
  let environment := EnvFile.ofEnvironment sources.environment
  let fileVariables := (sources.file.map (EnvFile.resolved environment)).getD []
  (f.directValue? sources.direct).or
    -- What is given directly goes first, and the file last.
    ((f.variableText? environment).or (f.variableText? fileVariables) |>.map Value.text)

/-- The settings from all sources, or the fields whose values do not fit, in alphabetical
    order. -/
def load (sources : Sources) : Except (List Field) Settings :=
  let step := fun (state : Settings × List Field) (f : Field) =>
    match sources.value? f with
    | none => state
    | some v =>
      match state.1.set? f v with
      | some s => (s, state.2)
      | none => (state.1, state.2 ++ [f])
  match Field.all.foldl step ({}, []) with
  | (s, []) => .ok s
  | (_, wrong) => .error wrong

end Settings

end PlanarMotion
