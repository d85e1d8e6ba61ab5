import PlanarMotion.Log.Level
import PlanarMotion.Text.Value

/-!
# Log Records and Their Lines

A record is written either as one JSON object or as a plain line. Both name the level,
the logger and the message; the JSON object adds the category that the logger belongs to
and the values attached to the record. An attached value whose name is one of the
record's own would hide it, and such a record is refused.

Lines carry no time here: the time of writing is put in front by whoever writes them.

## Main definitions

* `category`: The category of a logger.
* `Failure`: An error that a record reports.
* `Record`: What is logged.
* `Record.plain`, `Record.json`: The two forms of a line.
* `Record.hidden?`: The attached value that would hide a field.
-/

namespace PlanarMotion

namespace Log

/-- The categories of loggers, by the start of the logger's name; the first that fits
    counts. -/
def categories : List (String × String) :=
  [("path_mover.tokenizer", "parser"), ("path_mover.parser", "parser"),
   ("path_mover.serialize", "parser"), ("path_mover.paths", "geometry"),
   ("path_mover.builder", "geometry"), ("path_mover.easing", "motion"),
   ("path_mover.mover", "motion"), ("path_mover.editing", "editing"),
   ("path_mover.program", "editing"), ("path_mover.cli", "cli")]

/-- The category of a logger. -/
def category (logger : String) : String :=
  ((categories.find? fun (start, _) => start.toList.isPrefixOf logger.toList).map (·.2)).getD
    "system"

/-- An error that a record reports. -/
inductive Failure where
  /-- A wrong value. -/
  | value (message : String)
  /-- A missing key. -/
  | key (message : String)
  deriving DecidableEq, Repr

/-- The wording of a failure. The message of a missing key is quoted. -/
def Failure.text : Failure → String
  | .value message => if message.isEmpty then "ValueError" else "ValueError: " ++ message
  | .key message => "KeyError: " ++ Text.messageQuoted message

/-- What is logged. -/
structure Record where
  /-- How important it is. -/
  level : Level
  /-- The name of the logger. -/
  logger : String
  /-- The message. -/
  message : String
  /-- Attached values in order. -/
  extra : List (String × Value)
  /-- The failure it reports. -/
  failure : Option Failure

/-- The names of a record's own fields. -/
def ownFields : List String :=
  ["message", "asctime", "name", "msg", "args", "levelname", "levelno", "pathname", "filename",
   "module", "exc_info", "exc_text", "stack_info", "lineno", "funcName", "created", "msecs",
   "relativeCreated", "thread", "threadName", "processName", "process"]

/-- The report on an attached value that would hide a field. -/
def overwriteMessage (field : String) : String :=
  "Attempt to overwrite " ++ Text.messageQuoted field ++ " in LogRecord"

namespace Record

/-- The first attached value that would hide a field of the record. -/
def hidden? (r : Record) : Option String :=
  (r.extra.find? fun (name, _) => ownFields.contains name).map (·.1)

/-- The name of the logger as shown: the one without a name is the root of all. -/
def loggerName (r : Record) : String :=
  if r.logger.isEmpty then "root" else r.logger

/-- The attached values that are shown: a name that starts with an underscore is not. -/
def shownExtra (r : Record) : List (String × Value) :=
  r.extra.filter fun (name, _) => name.toList.head? != some '_'

/-- A record as a JSON object. -/
def json (r : Record) : String :=
  let extra := r.shownExtra
  Value.json (.object
    ([("level", .text r.level.name), ("category", .text (category r.loggerName)),
      ("logger", .text r.loggerName), ("message", .text r.message)]
      ++ (if extra.isEmpty then [] else [("extra", .object extra)])
      ++ (r.failure.map fun f => ("exception", Value.text f.text)).toList))

/-- A record as a plain line: the level in at least five columns, to the right. A failure
    follows on a line of its own. -/
def plain (r : Record) : String :=
  let level := r.level.name
  let padding := String.ofList (List.replicate (5 - level.length) ' ')
  let line := padding ++ level ++ " [" ++ r.loggerName ++ "] " ++ r.message
  match r.failure with
  | none => line
  | some f =>
    if line.toList.getLast? = some '\n' then line ++ f.text else line ++ "\n" ++ f.text

end Record

end Log

end PlanarMotion
