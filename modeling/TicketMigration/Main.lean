import TicketMigration.CommandLine.Program

/-!
# Command line

The settings file is read from standard input; the command line gives the name that it has in
messages.  No transport is linked in, so every request fails: what this program does is to check a
command line and a settings file.

## Main definitions

* `unreachable`: servers that cannot be reached.
* `Report.print` shows what a run leaves behind.
* `runCommandLine` runs the program.
-/

namespace TicketMigration

/-- Servers that cannot be reached. -/
def unreachable : Servers Unit :=
  ⟨fun _ world => (.error (.system "Network is unreachable"), world)⟩

/-- The name of a level. -/
def Level.name : Level → String
  | debug => "DEBUG"
  | info => "INFO"
  | warning => "WARNING"
  | error => "ERROR"

/-- The text for the end of the program, if there is one. -/
def Ending.notice? : Ending → Option String
  | done | stopped => none
  | usage message => some message
  | crash (.settings path (.file fault)) => some (fault.message path)
  | crash (.settings path _) => some ("Cannot use configuration file " ++ path)
  | crash (.failure failure) => some failure.message

/-- Reads what is left of a stream. -/
partial def readBytes (stream : IO.FS.Stream) (bytes : List UInt8) : IO (List UInt8) := do
  let chunk ← stream.read 65536
  if chunk.isEmpty then return bytes else readBytes stream (bytes ++ chunk.toList)

/-- Reads the settings file, if the command line names one. -/
def readSettings (arguments : List String) : IO (List UInt8) := do
  match parseArguments arguments with
  | .ok (.migrate given) =>
    if isGiven given.config then readBytes (← IO.getStdin) [] else return []
  | _ => return []

/-- Shows a report. -/
def Report.print (report : Report) : IO UInt32 := do
  for line in report.log do
    IO.eprintln (line.level.name ++ " " ++ line.text)
  IO.print report.output
  if let some notice := report.ending.notice? then
    IO.eprintln ("trac-to-gitlab: error: " ++ notice)
  return (report.ending.status.getD 1).toUInt32

/-- Runs the program on the words of a command line and gives the exit status. -/
def runCommandLine (arguments : List String) : IO UInt32 := do
  let settings ← readSettings arguments
  (runProgram (fun _ => some settings) unreachable arguments { world := () }).1.print

end TicketMigration

/-- The program. -/
def main (arguments : List String) : IO UInt32 :=
  TicketMigration.runCommandLine arguments
