import PlanarMotion.Text.Blank
import PlanarMotion.Text.Line

/-!
# Files of Variables

A file of variables assigns a text to a name on each line. A line may be empty or a
comment, may start with `export`, and may quote the name or the text; a quoted text may
run over several lines and has escapes. A name alone stands for a variable without a text.
A text may refer to variables that were set before it, in the environment or in the file.
A line that fits none of this is skipped.

A name that is assigned again keeps its place among the variables and takes the new text.

## Main definitions

* `EnvFile.Variable`: A name and its text.
* `EnvFile.bindings`: The assignments of a file as written.
* `EnvFile.resolved`: The variables of a file, with references replaced.
-/

namespace PlanarMotion

namespace EnvFile

open PlanarMotion.Text

/-- A variable, which may have no text. -/
structure Variable where
  /-- Its name. -/
  name : String
  /-- Its text. -/
  text : Option String
  deriving DecidableEq, Repr

/-- The variables of the environment, which all have a text. -/
def ofEnvironment (known : List (String × String)) : List Variable :=
  known.map fun (name, text) => ⟨name, some text⟩

/-- Whether a character ends a line. Carriage returns were replaced before. -/
def isLineEnd (c : Char) : Bool :=
  c == '\n'

/-- Whether a character is blank within a line. -/
def isInnerBlank (c : Char) : Bool :=
  isBlank c && !isLineEnd c

/-- A text without the blanks in front that are within its line. -/
def dropInnerBlanks (cs : List Char) : List Char :=
  cs.dropWhile isInnerBlank

/-- The text behind the line. -/
def dropLine (cs : List Char) : List Char :=
  (cs.dropWhile (!isLineEnd ·)).drop 1

/-- The text behind `export` and the blanks after it, if there are any. -/
def dropExport (cs : List Char) : List Char :=
  let tail := cs.drop 6
  if cs.take 6 = "export".toList ∧ (tail.head?.any isInnerBlank) then dropInnerBlanks tail
  else cs

/-- Takes a text up to a closing quote. A backslash keeps the next character from being
    one. -/
def takeQuoted (quote : Char) : List Char → Option (List Char × List Char)
  | [] => none
  | [c] => if c = quote then some ([], []) else none
  | c :: d :: rest =>
    if c = quote then some ([], d :: rest)
    -- The escape is kept for later, so that an escaped quote is no end.
    else if c = '\\' then
      (takeQuoted quote rest).map fun (body, tail) => (c :: d :: body, tail)
    else (takeQuoted quote (d :: rest)).map fun (body, tail) => (c :: body, tail)

/-- The character that an escape stands for between single quotes. -/
def singleEscape? : Char → Option Char
  | '\\' => some '\\'
  | c => if c.toNat = 0x27 then some c else none

/-- The character that an escape stands for between double quotes. -/
def doubleEscape? : Char → Option Char
  | '\\' => some '\\'
  | '"' => some '"'
  | 'a' => some (Char.ofNat 0x07)
  | 'b' => some (Char.ofNat 0x08)
  | 'f' => some (Char.ofNat 0x0C)
  | 'n' => some '\n'
  | 'r' => some '\r'
  | 't' => some '\t'
  | 'v' => some (Char.ofNat 0x0B)
  | c => if c.toNat = 0x27 then some c else none

/-- A quoted text with its escapes replaced. -/
def unescape (escape? : Char → Option Char) : List Char → List Char
  | '\\' :: c :: rest =>
    match escape? c with
    | some e => e :: unescape escape? rest
    | none => '\\' :: unescape escape? (c :: rest)
  | c :: rest => c :: unescape escape? rest
  | [] => []

/-- A text up to a comment that has a blank in front of it. -/
def beforeComment : List Char → List Char
  | [] => []
  | c :: rest =>
    if isBlank c && (dropBlanks rest).head? = some '#' then []
    else c :: beforeComment rest

/-- Takes the name of an assignment. A comment has none, and what can be no name fails. -/
def takeName? : List Char → Option (Option (List Char) × List Char)
  | '#' :: rest => some (none, '#' :: rest)
  | cs =>
    if cs.head? = some (Char.ofNat 0x27) then
      let body := cs.drop 1
      let name := body.takeWhile (·.toNat != 0x27)
      match body.dropWhile (·.toNat != 0x27) with
      | _ :: rest => if name.isEmpty then none else some (some name, rest)
      | [] => none
    else
      let inName := fun c => c != '=' && c != '#' && !isBlank c
      let name := cs.takeWhile inName
      if name.isEmpty then none else some (some name, cs.dropWhile inName)

/-- Takes the text of an assignment, behind the equals sign. The blanks there do not belong
    to it, but a comment may follow them. -/
def takeText? (cs : List Char) : Option (List Char × List Char) :=
  let quotedBy := fun (quote : Char) (escape? : Char → Option Char) (tail : List Char) =>
    (takeQuoted quote tail).map fun (body, after) => (unescape escape? body, after)
  match dropInnerBlanks cs with
  | [] => some ([], [])
  | c :: rest =>
    if c.toNat = 0x27 then quotedBy c singleEscape? rest
    else if c = '"' then quotedBy c doubleEscape? rest
    else some (trimBlanks (beforeComment (cs.takeWhile (!isLineEnd ·))),
      cs.dropWhile (!isLineEnd ·))

/-- The text behind a comment and the end of the line; `none` if anything else stands
    there. -/
def endLine? (cs : List Char) : Option (List Char) :=
  let tail := dropInnerBlanks cs
  let tail := if tail.head? = some '#' then tail.dropWhile (!isLineEnd ·) else tail
  match tail with
  | [] => some []
  | c :: rest => if isLineEnd c then some rest else none

/-- Takes one line: the name and the text on it, if there are any, and what is behind it. -/
def takeBinding (cs : List Char) : Option (List Char × Option (List Char)) × List Char :=
  match takeName? (dropExport cs) with
  | none => (none, dropLine (dropExport cs))
  | some (name, tail) =>
    let tail := dropInnerBlanks tail
    let assigned :=
      match tail with
      | '=' :: rest => (takeText? rest).map fun (t, after) => (some t, after)
      | _ => some (none, tail)
    match assigned with
    -- A line that goes wrong is skipped as a whole.
    | none => (none, dropLine tail)
    | some (text, after) =>
      match endLine? after with
      | none => (none, dropLine (dropInnerBlanks after))
      | some rest => (name.map fun n => (n, text), rest)

/-- The assignments of a text, at most as many as the fuel. Every line takes at least one
    character, so the length of the text is fuel enough. -/
def bindingsFrom : Nat → List Char → List (List Char × Option (List Char))
  | 0, _ => []
  | fuel + 1, cs =>
    match dropBlanks cs with
    | [] => []
    | c :: rest =>
      let (binding, after) := takeBinding (c :: rest)
      binding.toList ++ bindingsFrom fuel after

/-- A text without a byte order mark in front. -/
def dropMark : List Char → List Char
  | c :: rest => if c.toNat = 0xFEFF then rest else c :: rest
  | [] => []

/-- The assignments of a file as written, in order. -/
def bindings (text : String) : List Variable :=
  (bindingsFrom text.length (unifyLineEnds (dropMark text.toList))).map fun (n, t) =>
    ⟨String.ofList n, t.map String.ofList⟩

/-- The variable of a name, the last one if there are several. -/
def lookup? (known : List Variable) (name : String) : Option Variable :=
  known.reverse.find? fun v => v.name == name

/-- What a reference stands for: the variable's text, which is empty if it has none; else
    the default behind `:-`, else nothing. -/
def resolve (known : List Variable) (inner : List Char) : List Char :=
  let name := inner.takeWhile (· != ':')
  let fallback := (inner.dropWhile (· != ':')).drop 2
  match lookup? known (String.ofList name) with
  | some v => (v.text.getD "").toList
  | none => fallback

/-- Whether the inside of a reference is a name, with a default behind `:-` if at all. -/
def isReference (inner : List Char) : Bool :=
  match inner.dropWhile (· != ':') with
  | [] => true
  | ':' :: '-' :: _ => true
  | _ => false

/-- A text with its references replaced. The number of steps is at most the fuel. -/
def expandFrom (known : List Variable) : Nat → List Char → List Char
  | 0, cs => cs
  | _ + 1, [] => []
  | fuel + 1, c :: rest =>
    let inner := (rest.drop 1).takeWhile (·.toNat != 0x7D)
    let after := (rest.drop 1).dropWhile (·.toNat != 0x7D)
    -- A reference is a dollar sign and braces around a name.
    if c = '$' ∧ (rest.head?.map Char.toNat) = some 0x7B ∧ !after.isEmpty ∧ isReference inner then
      resolve known inner ++ expandFrom known fuel (after.drop 1)
    else c :: expandFrom known fuel rest

/-- A text with its references replaced. -/
def expand (known : List Variable) (text : String) : String :=
  String.ofList (expandFrom known (text.length + 1) text.toList)

/-- Variables with one assigned: in its place if the name is known, else behind the others. -/
def assign (known : List Variable) (v : Variable) : List Variable :=
  if known.any fun w => w.name == v.name then
    known.map fun w => if w.name = v.name then v else w
  else known ++ [v]

/-- The variables of a file with references replaced. A variable of the file hides one of
    the environment for the lines behind it. -/
def resolved (environment : List Variable) (text : String) : List Variable :=
  (bindings text).foldl (fun known v =>
    assign known { v with text := v.text.map (expand (environment ++ known)) }) []

end EnvFile

end PlanarMotion
