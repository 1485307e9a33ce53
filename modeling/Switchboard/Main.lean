import Switchboard.Service

/-!
# The command line

The command takes no arguments. It starts a service with the environment of its process and the
files below its directory, writes the lines of the log to standard output and complaints to standard
error, and waits on standard input for the order to stop: the word `INT` is an interrupt, and
anything else, the end of the input included, an order to terminate.
-/

namespace Switchboard

/-- The text of a file, if there is one of that name that can be read. -/
def fileText? (name : String) : IO (Option String) := do
  try
    return some (← IO.FS.readFile name)
  catch _ =>
    return none

/-- The files with some of the given names, with their texts. -/
def filesNamed (names : List String) : IO (List (String × String)) := do
  let found ← names.mapM fun name => return (← fileText? name).map (name, ·)
  return found.filterMap id

/-- The environment of the process. -/
def processEnvironment : IO Environment := do
  return Environment.ofBlock ((← fileText? "/proc/self/environ").getD "")

/-- Wait for the order to stop. -/
def awaitSignal : IO StopSignal := do
  let order ← (← IO.getStdin).getLine
  return if order.trimAscii == "INT" then .interrupt else .terminate

/-- Run a service until it is ordered to stop: the exit code of the process. -/
def serve : IO UInt32 := do
  let env ← processEnvironment
  let added ← filesNamed [Settings.envFile]
  let names := Settings.fileNames (Settings.environment env added)
  let files := added ++ (← filesNamed names)
  match Service.start env files with
  | .error fault =>
    IO.eprint (Service.failureText fault)
    return Service.failureCode fault
  | .ok service =>
    service.output.complaints.forM IO.eprintln
    (service.output.lines service.opening).forM IO.println
    let signal ← awaitSignal
    (service.output.lines (Service.closing signal)).forM IO.println
    return 0

end Switchboard

/-- The command. -/
def main : IO UInt32 := Switchboard.serve
