import PlanarMotion.Settings.Basic
import PlanarMotion.Text.Argument
import PlanarMotion.Vec

/-!
# Commands

What the arguments of the command line ask for. Options may stand anywhere behind the
command's name, flags may be joined in one argument, and an option's value may be joined
to it; behind `--` every argument is a value. An argument that starts with a minus sign
is an option, so negative coordinates have to stand behind `--`.

A command that cannot be understood has no reading at all: the caller only reports wrong
usage.

## Main definitions

* `Command`: What is asked for.
* `Command.ofArguments?`: The command that arguments ask for.
-/

namespace PlanarMotion

namespace Cli

/-- What is asked for. The file is a name, or a minus sign for standard input. -/
inductive Command where
  /-- Reports whether a program is valid. -/
  | check (file : String)
  /-- Prints the canonical form of a program, or writes it back. -/
  | format (file : String) (write : Bool)
  /-- Samples a motion at a number of equal intervals. -/
  | sample (file : String) (steps : Nat)
  /-- Lists the handles of a program. -/
  | handles (file : String)
  /-- Drags a handle and prints the program, or writes it back. -/
  | drag (file : String) (index : Int) (point : Vec Float) (write : Bool)

/-- The file that a command reads. -/
def Command.file : Command → String
  | .check file => file
  | .format file _ => file
  | .sample file _ => file
  | .handles file => file
  | .drag file _ _ _ => file

/-- An option of a command. -/
structure OptionForm where
  /-- Its long name, with the dashes. -/
  long : String
  /-- Its letter. -/
  short : Char
  /-- Whether a value belongs to it. -/
  takesValue : Bool

/-- Arguments sorted into options and values. -/
structure Sorted where
  /-- The options given, by their letters, with their values; the last one first. -/
  options : List (Char × String) := []
  /-- The other arguments in order. -/
  values : List String := []

/-- What one argument is, seen from its start. -/
inductive Reading where
  /-- No option. -/
  | value
  /-- An option that the command does not have, or one with a value that it must not have. -/
  | unknown
  /-- Options with their values; the last of them may wait for the next argument. -/
  | options (given : List (Char × String)) (waiting : Option Char)

/-- Reads the letters of joined options. What follows the letter of an option with a value
    is that value, and if nothing does the option waits for the next argument. -/
def readLetters (forms : List OptionForm) (given : List (Char × String)) :
    List Char → Reading
  | [] => .options given none
  | c :: rest =>
    match forms.find? fun f => f.short == c with
    | none => .unknown
    | some f =>
      if !f.takesValue then readLetters forms ((c, "") :: given) rest
      else if rest.isEmpty then .options given (some c)
      else .options ((c, String.ofList rest) :: given) none

/-- Reads a long option. Its value stands behind an equals sign, or the option waits for
    the next argument. -/
def readLong (forms : List OptionForm) (argument : List Char) : Reading :=
  let name := String.ofList (argument.takeWhile (· != '='))
  let given :=
    match argument.dropWhile (· != '=') with
    | _ :: value => some (String.ofList value)
    | [] => none
  match forms.find? fun f => f.long == name with
  | none => .unknown
  | some f =>
    match f.takesValue, given with
    | true, some value => .options [(f.short, value)] none
    | true, none => .options [] (some f.short)
    | false, some _ => .unknown
    | false, none => .options [(f.short, "")] none

/-- Reads one argument. A minus sign alone is a value. -/
def readArgument (forms : List OptionForm) (argument : String) : Reading :=
  match argument.toList with
  | '-' :: '-' :: letters => readLong forms ('-' :: '-' :: letters)
  | '-' :: c :: letters => readLetters forms [] (c :: letters)
  | _ => .value

/-- Sorts arguments into options and values, with an option that may be waiting for its
    value in front; `none` if an option is unknown or lacks its value. -/
def sortFrom (forms : List OptionForm) : Option Char → List String → Option Sorted
  | none, [] => some {}
  | some _, [] => none
  | some c, argument :: rest =>
    (sortFrom forms none rest).map fun s => { s with options := s.options ++ [(c, argument)] }
  | none, argument :: rest =>
    -- Behind two minus signs everything is a value.
    if argument = "--" then some { values := rest }
    else
      match readArgument forms argument with
      | .value =>
        (sortFrom forms none rest).map fun s => { s with values := argument :: s.values }
      | .unknown => none
      | .options given waiting =>
        (sortFrom forms waiting rest).map fun s => { s with options := s.options ++ given }

/-- Sorts arguments into options and values. -/
def sortArguments (forms : List OptionForm) (arguments : List String) : Option Sorted :=
  sortFrom forms none arguments

/-- The option that writes the result back. -/
def writeForm : OptionForm :=
  ⟨"--write", 'w', false⟩

/-- The option for the number of intervals. -/
def stepsForm : OptionForm :=
  ⟨"--steps", 'n', true⟩

/-- The value of an option, the last one if it was given more than once. -/
def Sorted.value? (s : Sorted) (f : OptionForm) : Option String :=
  (s.options.find? fun (c, _) => c == f.short).map (·.2)

/-- A number of intervals: at least one. -/
def stepsOfText? (text : String) : Option Nat :=
  ((Text.integerOfText? text).filter (1 ≤ ·)).map Int.toNat

/-- The command of a name with its arguments. -/
def Command.ofNamed? (defaultSteps : Nat) (name : String) (arguments : List String) :
    Option Command :=
  match name with
  | "check" =>
    (sortArguments [] arguments).bind fun s =>
      match s.values with
      | [file] => some (.check file)
      | _ => none
  | "format" =>
    (sortArguments [writeForm] arguments).bind fun s =>
      match s.values with
      | [file] => some (.format file (s.value? writeForm).isSome)
      | _ => none
  | "sample" =>
    (sortArguments [stepsForm] arguments).bind fun s =>
      match s.values, s.value? stepsForm with
      | [file], none => some (.sample file defaultSteps)
      | [file], some text => (stepsOfText? text).map fun steps => .sample file steps
      | _, _ => none
  | "handles" =>
    (sortArguments [] arguments).bind fun s =>
      match s.values with
      | [file] => some (.handles file)
      | _ => none
  | "drag" =>
    (sortArguments [writeForm] arguments).bind fun s =>
      match s.values with
      | [file, index, x, y] => do
        let index ← Text.integerOfText? index
        let x ← Text.doubleOfText? x
        let y ← Text.doubleOfText? y
        some (.drag file index ⟨x, y⟩ (s.value? writeForm).isSome)
      | _ => none
  | _ => none

/-- The command that arguments ask for. -/
def Command.ofArguments? (settings : Settings) : List String → Option Command
  | "--" :: name :: arguments => ofNamed? settings.sampleSteps.toNat name arguments
  | name :: arguments => ofNamed? settings.sampleSteps.toNat name arguments
  | [] => none

end Cli

end PlanarMotion
