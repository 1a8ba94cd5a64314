import Roster.Program

/-!
# `Roster.Session.Step`: the steps of a session

What can be asked of a session: to make a handle and name it, to do
something on a handle, to change what a server holds, or to run the
program. What comes back is a value or the reason why there is none.
-/

set_option autoImplicit false

namespace Roster

/-- What can be done with a handle. -/
inductive Form where
  /-- A store of a known kind. -/
  | store
  /-- A store of whatever kind its URL named. -/
  | opened
  | seeder
deriving DecidableEq, Repr

/-- What a name stands for. -/
structure Handle where
  place : Place
  form : Form
  /-- Whether answers show the records at the place. -/
  watched : Bool
deriving DecidableEq, Repr

/-- What is done on a handle. -/
inductive Action where
  | store (operation : Store.Operation)
  | collection
  | seed
  | verify
  | setUnavailable (value : Bool)
  | fail (failure : Failure)
  | display
  | poolSize
deriving DecidableEq, Repr

/-- A change to the record of migrations on the table server. -/
inductive MigrationEdit where
  /-- The contents of all that were applied have changed since. -/
  | modified
  /-- None was carried through to its end. -/
  | dirty
  /-- None is recorded. -/
  | forget
  /-- One that is not known here was applied. -/
  | unknown (version : Int)
deriving DecidableEq, Repr

/-- One step of a session. -/
inductive Step where
  | memory (name : String) (records : List Employee)
  | scripted (name : String) (collection : String) (records : List Employee)
  | connect (name : String) (url : String)
  | connectDocuments (name : String) (url : String)
  | connectTable (name : String) (url : String)
  | documents (name : String) (place : Documents.Namespace)
  /-- The table of a database as it is, without bringing it up to
  date. -/
  | table (name : String) (database : String)
  | clone (source name : String)
  | seeder (source name : String)
  | act (name : String) (action : Action)
  /-- Something that no handle does. -/
  | other (name : String)
  | putDocuments (place : Documents.Namespace) (documents : List Documents.Document)
  | failCommand (fault : Documents.Fault)
  | putRows (database : String) (rows : List Tables.Row)
  | failStatement (database : String) (fault : Tables.Fault)
  | editMigrations (database : String) (edit : MigrationEdit)
  | program (environment : Environment)

/-- The value of a step that succeeds. -/
inductive Value where
  | unit
  | count (n : Nat)
  | text (s : String)
  | records (records : List Employee)
  | transcript (t : Transcript)
deriving DecidableEq, Repr

/-- A store's answer as a value. -/
def Value.ofReply : Store.Reply → Value
  | .cleared => .unit
  | .written n => .count n
  | .listed rs => .records rs

/-- Why a step fails. -/
inductive StepError where
  /-- The name stands for nothing. -/
  | unknownName
  /-- The handle cannot do that. -/
  | unsupported
  | store (cause : StoreError)
  | seed (cause : SeedError)
deriving DecidableEq, Repr

end Roster
