import Roster.Config
import Roster.Log.Filter
import Roster.World

/-!
# `Roster.Program`: one run of the program

A run opens the store that the settings name, seeds it, verifies it and
lists what it holds. The stages follow one another, and the first that
fails ends the run: no later stage touches a store. So a run succeeds
only if the store was listed at the end and held exactly the fixed
records.

The run shows events as lines and a failure as a report. The report
names the failure and then its causes, one below the other.
-/

set_option autoImplicit false

namespace Roster

/-- Why a run fails. -/
inductive ProgramError where
  | opening (cause : StoreError)
  | seeding (cause : SeedError)
deriving DecidableEq, Repr

/-- What is said of a failure. -/
def ProgramError.account : ProgramError → Account
  | .opening cause => cause.account
  | .seeding cause => cause.account

/-- What a run takes from its surroundings: environment variables, each
of which may be unset. -/
structure Environment where
  databaseUrl : Option (List UInt8)
  filter : Option (List UInt8)
deriving DecidableEq, Repr

/-- What a run shows. -/
structure Transcript where
  exitCode : Nat
  output : List String
  report : String
deriving DecidableEq, Repr

namespace Program

/-- An event that the program tells. -/
def tell (text : String) : Event :=
  ⟨.info, .program, text⟩

/-- Lists the records that a run leaves behind. -/
def summary (found : List Employee) : List Event :=
  tell "Seed completed!" :: found.map fun e => tell (Seeder.recordLine e)

/-- Seeds a store, verifies it, and lists what it holds. -/
def seedAndVerify (store : Store World) (w : World) :
    Outcome World ProgramError (List Employee) :=
  ((Seeder.seed store w).mapError .seeding).andThen fun _ w =>
    ((Seeder.verify store w).mapError .seeding).andThen fun found w =>
      Outcome.tell (summary found) found w

/-- Opens the store that the settings name, seeds it and verifies it.
The answer is what the store holds at the end. -/
def run (config : Config) (w : World) : Outcome World ProgramError (List Employee) :=
  ((w.connect config.databaseUrl).mapError .opening).andThen fun place w =>
    (seedAndVerify place.store w).after [tell "Connected to database"]

/-- The lines of a text, those after the first set in. -/
def indented (indent : String) (text : String) : String :=
  String.ofList (("\n" ++ indent).toList.intercalate (Text.splitAll '\n' text.toList))

/-- A cause in a report. With several causes each has its number. -/
def causeLine (several : Bool) (number : Nat) (text : String) : String :=
  if several then
    let digits := toString number
    "\n" ++ "".pushn ' ' (5 - digits.length) ++ digits ++ ": " ++ indented "       " text
  else "\n    " ++ indented "    " text

/-- The report of a failure. It breaks off where the words are not
fixed. -/
def report (a : Account) : String :=
  match a.messages with
  | [] => ""
  | first :: causes =>
    if a.isOpen then "Error: " ++ first
    else if causes.isEmpty then "Error: " ++ first ++ "\n"
    else
      "Error: " ++ first ++ "\n\nCaused by:"
        ++ String.join (causes.mapIdx (causeLine (1 < causes.length))) ++ "\n"

/-- The lines of the events that a filter shows. -/
def outputLines (filter : Filter) (events : List Event) : List String :=
  (events.filter filter.shows).flatMap fun e =>
    (Text.splitAll '\n' e.line.toList).map String.ofList

/-- A run as it is seen from outside. -/
def transcript (environment : Environment) (w : World) : Transcript × World :=
  let outcome := run (Config.ofEnvironment environment.databaseUrl) w
  let output := outputLines (Filter.ofEnvironment environment.filter) outcome.events
  match outcome.result with
  | .ok _ => (⟨0, output, ""⟩, outcome.state)
  | .error e => (⟨1, output, report e.account⟩, outcome.state)

end Program

end Roster
