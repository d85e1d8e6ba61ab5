import PlanarMotion.Number.Shortest
import PlanarMotion.Text.Quoted

/-!
# Plain Values

Values of a program's surroundings: what may be attached to a log record, or stand where
a statement was expected. Objects keep the order of their members.

## Main definitions

* `Value`: A plain value.
* `Value.json`: Its JSON text, with a space after each comma and colon.
* `Value.shown`: How messages show it.
* `Value.noStatementMessage`: The report on a value that is no statement.
-/

namespace PlanarMotion

open PlanarMotion.Number

/-- A plain value. -/
inductive Value where
  /-- No value. -/
  | none
  /-- A truth value. -/
  | bool (b : Bool)
  /-- An integer of any size. -/
  | integer (n : Int)
  /-- A double. -/
  | number (x : Float)
  /-- A text. -/
  | text (s : String)
  /-- Values in order. -/
  | list (values : List Value)
  /-- Named values in order. -/
  | object (members : List (String × Value))
  deriving Inhabited

namespace Value

/-- A double in JSON text: the fewest digits that read back, and the usual names for what
    has none. -/
def jsonNumber (x : Float) : String :=
  let b := Binary64.ofFloat x
  match b.magnitude with
  | .nan => "NaN"
  | .infinite => if b.negative then "-Infinity" else "Infinity"
  | .finite _ => String.ofList (shortest x)

mutual

/-- The JSON text of a value. -/
def json : Value → String
  | .none => "null"
  | .bool b => if b then "true" else "false"
  | .integer n => toString n
  | .number x => jsonNumber x
  | .text s => Text.jsonQuoted s
  | .list values => "[" ++ ", ".intercalate (jsonAll values) ++ "]"
  | .object members => "\x7b" ++ ", ".intercalate (jsonMembers members) ++ "\x7d"

/-- The JSON texts of values. -/
def jsonAll : List Value → List String
  | [] => []
  | v :: rest => json v :: jsonAll rest

/-- The JSON texts of members. -/
def jsonMembers : List (String × Value) → List String
  | [] => []
  | (name, v) :: rest => (Text.jsonQuoted name ++ ": " ++ json v) :: jsonMembers rest

end

mutual

/-- How messages show a value. -/
def shown : Value → String
  | .none => "None"
  | .bool b => if b then "True" else "False"
  | .integer n => toString n
  | .number x => String.ofList (shortest x)
  | .text s => Text.messageQuoted s
  | .list values => "[" ++ ", ".intercalate (shownAll values) ++ "]"
  | .object members => "\x7b" ++ ", ".intercalate (shownMembers members) ++ "\x7d"

/-- How messages show values. -/
def shownAll : List Value → List String
  | [] => []
  | v :: rest => shown v :: shownAll rest

/-- How messages show members. -/
def shownMembers : List (String × Value) → List String
  | [] => []
  | (name, v) :: rest => (Text.messageQuoted name ++ ": " ++ shown v) :: shownMembers rest

end

/-- The report on a value that stands where a statement was expected. -/
def noStatementMessage (v : Value) : String :=
  "Unknown path statement: " ++ v.shown

end Value

end PlanarMotion
