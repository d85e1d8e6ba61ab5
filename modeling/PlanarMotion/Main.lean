import PlanarMotion.Cli.Run

/-!
# The Program

Reads the settings, the arguments and one file, and does what the command's outcome says.
-/

namespace PlanarMotion

namespace Cli

/-- The variables of the environment that are settings, in the usual spelling. -/
def settingVariables : IO (List (String × String)) :=
  Settings.Field.all.filterMapM fun f => do
    let name := (Settings.variablePrefix ++ f.name).map Char.toUpper
    return (← IO.getEnv name).map fun text => (name, text)

/-- The settings from the environment and a file of variables in the working folder. -/
def loadSettings : IO (Except (List Settings.Field) Settings) := do
  let environment ← settingVariables
  let file ← (some <$> IO.FS.readFile ".env").catchExceptions fun _ => pure none
  return Settings.load { environment := environment, file := file }

/-- Why the operating system refused to read a file. -/
def readFailureOf : IO.Error → ReadFailure
  | .noFileOrDirectory .. => .notFound
  | .noSuchThing .. => .notFound
  | .inappropriateType _ 20 _ => .notFolder
  | .inappropriateType .. => .isFolder
  | .invalidArgument _ 36 _ => .nameTooLong
  | .permissionDenied _ code _ => .other code.toNat "Permission denied"
  | e => .other 5 (toString e)

/-- What a command's file holds, or why it cannot be read. -/
def readSource (file : String) : IO (Except ReadFailure String) := do
  if file = "-" then return .ok (← (← IO.getStdin).readToEnd)
  else
    try return .ok (← IO.FS.readFile (tidyPath file))
    catch e => return .error (readFailureOf e)

/-- Adds text at the end of a file, which is made if it is missing. -/
def appendFile (path text : String) : IO Unit := do
  let handle ← IO.FS.Handle.mk path .append
  handle.putStr text

/-- Writes the log lines of an outcome to the error stream and to the log's files. -/
def writeLog (c : Log.Configuration) (records : List Log.Record) : IO Unit := do
  for r in records do
    match c.log ⟨[]⟩ r with
    | .ok (text, _) =>
      (← IO.getStderr).putStr text
      unless text.isEmpty do
        for path in c.filesFor r do appendFile path text
    | .error refusal => (← IO.getStderr).putStrLn refusal.message

/-- Runs the command that the arguments ask for. -/
def runArguments (settings : Settings) (arguments : List String) : IO UInt32 := do
  match Command.ofArguments? settings arguments with
  | none =>
    (← IO.getStderr).putStrLn
      "Usage: path-mover (check | format | sample | handles | drag) FILE [OPTIONS]"
    return usageExit.toUInt32
  | some command =>
    let outcome := command.run (← readSource command.file)
    writeLog (logConfiguration settings) outcome.log
    if let some text := outcome.written then IO.FS.writeFile command.file text
    (← IO.getStdout).putStr outcome.output
    return outcome.exit.toUInt32

end Cli

end PlanarMotion

/-- Runs the command that the arguments ask for, under the settings of the surroundings. -/
def main (arguments : List String) : IO UInt32 := do
  match ← PlanarMotion.Cli.loadSettings with
  | .ok settings => PlanarMotion.Cli.runArguments settings arguments
  | .error fields =>
    for f in fields do
      (← IO.getStderr).putStrLn ("Invalid setting: " ++ f.name)
    return 1
