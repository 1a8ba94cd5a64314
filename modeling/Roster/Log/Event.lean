import Roster.Text.Terminal

/-!
# `Roster.Log.Event`: what is told

What the library tells while it works. An event has a level, the part
of the library that it comes from, and a text.
-/

set_option autoImplicit false

namespace Roster

/-- How much an event matters. -/
inductive Level where
  | error
  | warn
  | info
  | debug
  | trace
deriving DecidableEq, Repr

/-- The name of a level. -/
def Level.name : Level → String
  | .error => "ERROR"
  | .warn => "WARN"
  | .info => "INFO"
  | .debug => "DEBUG"
  | .trace => "TRACE"

/-- The rank of a level. What matters less has the greater rank. -/
def Level.rank : Level → Nat
  | .error => 1
  | .warn => 2
  | .info => 3
  | .debug => 4
  | .trace => 5

/-- The parts that tell events. -/
inductive Source where
  | program
  | seeder
  | connecting
  | documents
  | tables
deriving DecidableEq, Repr

/-- The name of a part, by which its events are chosen. -/
def Source.name : Source → String
  | .program => "seed"
  | .seeder => "seed_data::db::seeder"
  | .connecting => "employees::store"
  | .documents => "employees::store::mongo"
  | .tables => "employees::store::postgres"

/-- Something that the library tells. -/
structure Event where
  level : Level
  source : Source
  text : String
deriving DecidableEq, Repr

/-- The line that shows an event. -/
def Event.line (e : Event) : String :=
  e.level.name ++ " " ++ e.source.name ++ ": " ++ Text.Terminal.text e.text

end Roster
