import PlanarMotion.Folder
import PlanarMotion.Log.Record

/-!
# Where Log Lines Go

A configuration says which records are logged, in which form, and to which files besides
the console. A second file takes errors only. Configuring again replaces what was there;
the files of earlier configurations stay as they are.

## Main definitions

* `Configuration`: Form, threshold and files.
* `Configuration.opened`: A folder with the configured files in it.
* `Configuration.log`: What one record writes.
-/

namespace PlanarMotion

namespace Log

/-- Form, threshold and files of a log. -/
structure Configuration where
  /-- Whether lines are JSON objects. -/
  asJson : Bool := true
  /-- The least level number that is logged. -/
  threshold : Int := 20
  /-- A file that takes all lines. -/
  file : Option String := none
  /-- A file that takes the lines of errors. -/
  errorFile : Option String := none

/-- Why a record is refused. -/
inductive Refusal where
  /-- An attached value has the name of a field of the record. -/
  | overwrites (field : String)
  deriving DecidableEq, Repr

/-- The wording of a refusal. -/
def Refusal.message : Refusal → String
  | .overwrites field => overwriteMessage field

namespace Configuration

/-- The files of a configuration; an empty name is none. -/
def files (c : Configuration) : List String :=
  (c.file.toList ++ c.errorFile.toList).filter (!·.isEmpty)

/-- How many places a record may be written to: the console and the files. -/
def handlerCount (c : Configuration) : Nat :=
  1 + c.files.length

/-- A folder with the files of a configuration in it, empty if they were not there. -/
def opened (c : Configuration) (d : Folder) : Folder :=
  c.files.foldl (fun d file => d.append file "") d

/-- The line of a record. -/
def line (c : Configuration) (r : Record) : String :=
  (if c.asJson then r.json else r.plain) ++ "\n"

/-- Whether a record is logged at all. A record without a level never is, however low the
    threshold. -/
def enabled (c : Configuration) (r : Record) : Bool :=
  decide (0 < r.level.number) && decide (c.threshold ≤ r.level.number)

/-- The files that a record is written to, in order. -/
def filesFor (c : Configuration) (r : Record) : List String :=
  let errors := if Level.error.number ≤ r.level.number then c.errorFile.toList else []
  (c.file.toList ++ errors).filter (!·.isEmpty)

/-- Logs a record: the text for the console, empty if the record is below the threshold,
    and the folder afterwards. -/
def log (c : Configuration) (d : Folder) (r : Record) : Except Refusal (String × Folder) :=
  if !c.enabled r then .ok ("", d)
  else
    match r.hidden? with
    | some field => .error (.overwrites field)
    | none =>
      let text := c.line r
      .ok (text, (c.filesFor r).foldl (fun d file => d.append file text) d)

end Configuration

end Log

end PlanarMotion
