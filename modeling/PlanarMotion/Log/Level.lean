/-!
# Log Levels

Levels are numbers; six of them have names, and two of those have a second one. A level
that is asked for by name in any case is found by its capitals, and a name that is none
of these means the level for information.

## Main definitions

* `Level`: The levels with names.
* `Level.number`, `Level.name`: Their numbers and names.
* `Level.ofName?`: The level of a name, also a second one.
* `thresholdOfName`: The number that a name in any case asks for.

## Theorems

* `Level.ofName?_name`: A level is found by its name.
-/

namespace PlanarMotion

namespace Log

/-- The levels with names. -/
inductive Level where
  /-- No threshold. -/
  | notSet
  /-- For finding faults. -/
  | debug
  /-- What happens. -/
  | info
  /-- What may go wrong. -/
  | warning
  /-- What went wrong. -/
  | error
  /-- What ends the program. -/
  | critical
  deriving DecidableEq, Repr

namespace Level

/-- All levels, from the least to the greatest. -/
def all : List Level :=
  [.notSet, .debug, .info, .warning, .error, .critical]

/-- The number of a level. -/
def number : Level → Int
  | .notSet => 0
  | .debug => 10
  | .info => 20
  | .warning => 30
  | .error => 40
  | .critical => 50

/-- The name of a level. -/
def name : Level → String
  | .notSet => "NOTSET"
  | .debug => "DEBUG"
  | .info => "INFO"
  | .warning => "WARNING"
  | .error => "ERROR"
  | .critical => "CRITICAL"

/-- The level of a name. Two levels have a second name. -/
def ofName? (name : String) : Option Level :=
  if name = "WARN" then some .warning
  else if name = "FATAL" then some .critical
  else all.find? fun l => l.name == name

/-- A level is found by its name. -/
theorem ofName?_name (l : Level) : ofName? l.name = some l := by
  cases l <;> decide

end Level

/-- The capital of a letter, for letters whose capital is in ASCII: besides the ASCII
    letters the dotless `i` and the long `s`. -/
def capital (c : Char) : Char :=
  if c = 'ı' then 'I' else if c = 'ſ' then 'S' else c.toUpper

/-- The least number of a record to be logged, as a name in any case asks for it. -/
def thresholdOfName (name : String) : Int :=
  ((Level.ofName? (name.map capital)).getD .info).number

end Log

end PlanarMotion
