import PlanarMotion.Cli.Command
import PlanarMotion.Cli.Message
import PlanarMotion.Cli.Table
import PlanarMotion.Folder
import PlanarMotion.Handle.Drag
import PlanarMotion.Handle.Projection
import PlanarMotion.Log.Configuration
import PlanarMotion.Number.Significant
import PlanarMotion.Script.Printer
import PlanarMotion.Script.Reader

/-!
# Running Commands

A command is a function from what its file holds to what it prints, what it logs and
whether it writes the file back. Nothing here touches the terminal or the disk.

## Main definitions

* `Outcome`: What a command does.
* `Command.run`: The outcome of a command, given the content of its file.
-/

namespace PlanarMotion

namespace Cli

open PlanarMotion.Number PlanarMotion.Script

/-- What a command does. -/
structure Outcome where
  /-- The exit code. -/
  exit : Nat := 0
  /-- The text for standard output. -/
  output : String := ""
  /-- The records for the log. -/
  log : List Log.Record := []
  /-- The text to write back to the command's file. -/
  written : Option String := none

/-- The exit code for wrong usage. -/
def usageExit : Nat :=
  2

/-- The width of the terminal. -/
def terminalWidth : Nat :=
  80

/-- The exit code for a failure. -/
def failureExit : Nat :=
  1

/-- A failure that prints nothing. -/
def silentFailure : Outcome :=
  { exit := failureExit }

/-- An outcome that prints a message besides. If the message cannot be shown the command
    fails at that point, after all else is done. -/
def Outcome.say (o : Outcome) (message : String) : Outcome :=
  match messageText? terminalWidth message with
  | some text => { o with output := o.output ++ text }
  | none => { o with exit := failureExit }

/-- A record of this part of the program. -/
def logged (message : String) : Log.Record :=
  ⟨.info, "path_mover.cli", message, [], none⟩

/-- A command that fails with a message. -/
def failed (message : String) (log : List Log.Record) : Outcome :=
  Outcome.say { silentFailure with log := log } (Markup.styled "red" message)

/-- A coordinate in a table. -/
def coordinateText (x : Float) : String :=
  String.ofList (fixed 3 x)

/-- A vector in a table. -/
def vectorCell (v : Vec Float) : String :=
  "(" ++ coordinateText v.x ++ ", " ++ coordinateText v.y ++ ")"

/-- The names of the arguments in an address, with points between them. -/
def addressText (a : Address) : String :=
  toString a.phase ++ "." ++ toString a.statement ++ "." ++ toString a.argument

/-- Prints a program, or writes it back unless it came from standard input. -/
def deliver (file : String) (p : Program Float) (write : Bool) : Outcome :=
  let text := print p
  if write && file != "-" then
    Outcome.say { written := some text } (Markup.styled "green" ("Wrote " ++ file))
  else { output := text }

/-- The report on a valid program. -/
def runCheck (p : Program Float) : Outcome :=
  match p.compile? with
  | .error _ => silentFailure
  | .ok mover =>
    Outcome.say {} (Markup.styled "green" "OK" ++ ": " ++ toString p.phases.length
      ++ " phase(s), duration " ++ String.ofList (generalText 6 mover.duration))

/-- The time after a number of equal intervals of a motion. -/
def sampleTime (duration : Float) (step steps : Nat) : Float :=
  duration * floatOfNat step / floatOfNat steps

/-- The row of a table for the sample at a time. -/
def sampleRow (motion : Motion Float) (time : Float) : Except DomainError (List String) :=
  (motion.sample? time).map fun s =>
    [coordinateText time, vectorCell s.pose.position, vectorCell s.pose.direction,
      String.ofList (fixed 4 s.speed)]

/-- The table of samples of a program. -/
def runSample (p : Program Float) (steps : Nat) : Outcome :=
  let rows := do
    let mover ← p.compile?
    let motion := mover.motion
    (List.range (steps + 1)).mapM fun step =>
      sampleRow motion (sampleTime motion.duration step steps)
  match rows with
  | .error _ => silentFailure
  | .ok rows =>
    { output := Table.render
        ⟨"Samples",
          [⟨"Time", true⟩, ⟨"Position", false⟩, ⟨"Direction", false⟩, ⟨"Speed", true⟩], rows⟩ }

/-- The row of a table for a handle. -/
def handleRow (index : Nat) (h : Handle Float) : Except DomainError (List String) :=
  h.position?.map fun position =>
    [toString index, h.grip.kind, h.segment.name, addressText h.address, vectorCell position]

/-- The table of handles of a program. -/
def runHandles (p : Program Float) : Outcome :=
  let rows := do
    let handles ← p.handles?
    handles.zipIdx.mapM fun (h, index) => handleRow index h
  match rows with
  | .error _ => silentFailure
  | .ok [] => Outcome.say {} (Markup.styled "yellow" "No control points")
  | .ok rows =>
    { output := Table.render
        ⟨"Control Points",
          [⟨"#", true⟩, ⟨"Type", false⟩, ⟨"Segment", false⟩, ⟨"Path", false⟩,
            ⟨"Position", false⟩], rows⟩ }

/-- Drags one handle of a program. -/
def runDrag (file : String) (p : Program Float) (index : Int) (point : Vec Float) (write : Bool) :
    Outcome :=
  match p.handles? with
  | .error _ => silentFailure
  | .ok handles =>
    match elementAt? handles index with
    | none =>
      failed ("No control point " ++ toString index ++ " (program has "
        ++ toString handles.length ++ ")") []
    | some h =>
      -- The drag is logged even if it does not fit and changes nothing.
      { deliver file (p.change h point) write with
        log := [logged ("Dragged " ++ h.grip.kind ++ " handle " ++ addressText h.address)] }

/-- The outcome of a command on a program. -/
def Command.runOn (c : Command) (p : Program Float) : Outcome :=
  match c with
  | .check _ => runCheck p
  | .format file write => deliver file p write
  | .sample _ steps => runSample p steps
  | .handles _ => runHandles p
  | .drag file index point write => runDrag file p index point write

/-- Whether a text can be the name of a file at all, found or not. -/
def isFileName (name : String) : Bool :=
  name.toList.all fun c => c.toNat != 0

/-- The outcome of a command, given what its file holds or why it cannot be read. -/
def Command.run (c : Command) (source : Except ReadFailure String) : Outcome :=
  match isFileName c.file, source with
  | false, _ => silentFailure
  | true, .error f => failed ("Cannot read " ++ c.file ++ ": " ++ f.message c.file) []
  | true, .ok text =>
    match read text with
    | .error r =>
      failed ("Parse error: " ++ r.message) [logged ("Rejected " ++ c.file ++ ": " ++ r.message)]
    | .ok p => c.runOn p

/-- The log of the command line under given settings. -/
def logConfiguration (s : Settings) : Log.Configuration :=
  { asJson := s.logJson, threshold := Log.thresholdOfName s.logLevel, file := s.logFile }

end Cli

end PlanarMotion
