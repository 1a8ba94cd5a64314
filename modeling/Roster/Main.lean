import Roster.Program

/-!
# `Roster.Main`: the command line

Runs the program with the settings of the environment: `DATABASE_URL`
names the store, `RUST_LOG` chooses the events that are shown. Lines go
to standard output and the report of a failure to standard error.

No server is spoken to from here, so a URL that names one is answered
as if no server could be reached.
-/

set_option autoImplicit false

namespace Roster.Main

/-- The world of a process that has just started and reaches no
server. -/
def startWorld : World :=
  { memories := []
    scripted := []
    documents := .empty "" false
    tables := ⟨"", false, []⟩ }

/-- The bytes of an environment variable. -/
def readVariable (name : String) : IO (Option (List UInt8)) := do
  return (← IO.getEnv name).map Text.utf8

end Roster.Main

/-- Runs the program once. Arguments are ignored. -/
def main : IO UInt32 := do
  let databaseUrl ← Roster.Main.readVariable "DATABASE_URL"
  let filter ← Roster.Main.readVariable "RUST_LOG"
  let (transcript, _) := Roster.Program.transcript ⟨databaseUrl, filter⟩ Roster.Main.startWorld
  for line in transcript.output do
    IO.println line
  IO.eprint transcript.report
  return transcript.exitCode.toUInt32
