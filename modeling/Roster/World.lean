import Roster.Documents.Address
import Roster.Outcome
import Roster.Scheme
import Roster.Seeder
import Roster.Store.Memory
import Roster.Store.Scripted
import Roster.Tables.Address

/-!
# `Roster.World`: all stores together

The stores inside the process, numbered in the order in which they were
made, the two servers, and what the process finds around it. Each place
in the world where records are kept gives a store on the world as a
whole. Several holders can work on the same place; they share what is
there.

Opening a URL picks the kind of store by its scheme. A memory URL makes
a new, empty store each time.
-/

set_option autoImplicit false

namespace Roster

/-- All that stores keep. -/
structure World where
  memories : List Memory
  scripted : List Scripted
  documents : Documents.Server
  tables : Tables.Server
  /-- What the process finds around it. -/
  machine : Machine := .bare
deriving Inhabited

/-- A place where records are kept. -/
inductive Place where
  | memory (number : Nat)
  | scripted (number : Nat) (collection : String)
  | documents (client : Documents.Client)
  /-- The table of a database, through a pool of connections of some
  size. -/
  | table (database : String) (poolSize : Nat)
deriving DecidableEq, Repr

namespace World

/-- The store in memory with a number. -/
def memory (w : World) (number : Nat) : Memory :=
  w.memories[number]?.getD default

/-- The world with another state of a store in memory. -/
def setMemory (number : Nat) (w : World) (m : Memory) : World :=
  { w with memories := w.memories.set number m }

/-- The world with one more store in memory, and its place. -/
def addMemory (w : World) (m : Memory) : Place × World :=
  (.memory w.memories.length, { w with memories := w.memories ++ [m] })

/-- The store that fails on demand with a number. -/
def script (w : World) (number : Nat) : Scripted :=
  w.scripted[number]?.getD default

/-- The world with another state of a store that fails on demand. -/
def setScript (number : Nat) (w : World) (s : Scripted) : World :=
  { w with scripted := w.scripted.set number s }

/-- The world with one more store that fails on demand, and its
place. -/
def addScripted (w : World) (collection : String) (s : Scripted) : Place × World :=
  (.scripted w.scripted.length collection, { w with scripted := w.scripted ++ [s] })

/-- The world with another state of the document server. -/
def setDocuments (w : World) (s : Documents.Server) : World :=
  { w with documents := s }

/-- The world with another state of the table server. -/
def setTables (w : World) (s : Tables.Server) : World :=
  { w with tables := s }

/-- A database of the table server. -/
def database (w : World) (name : String) : Tables.Database :=
  w.tables.database name

/-- The world with another state of a database of the table server. -/
def setDatabase (name : String) (w : World) (d : Tables.Database) : World :=
  w.setTables (.setDatabase name w.tables d)

end World

namespace Place

/-- The store at a place. -/
def store : Place → Store World
  | .memory number => Memory.store.within (·.memory number) (World.setMemory number)
  | .scripted number collection =>
    (Scripted.store collection).within (·.script number) (World.setScript number)
  | .documents client => client.store.within World.documents World.setDocuments
  | .table database _ =>
    Tables.store.within (·.database database) (World.setDatabase database)

/-- The records at a place inside the process, in or out of service. -/
def records? (w : World) : Place → Option (List Employee)
  | .memory number => some (w.memory number).records
  | .scripted number _ => some (w.script number).records
  | .documents _ | .table .. => none

end Place

namespace World

/-- Opens a collection on a document server. -/
def openDocuments (url : String) (w : World) : Outcome World StoreError Place :=
  match Documents.Client.connect w.machine url w.documents with
  | .error e => ⟨.error e, [], w⟩
  | .ok client =>
    ⟨.ok (.documents client),
      [⟨.info, .documents, "Using MongoDB database " ++ client.place.database⟩], w⟩

/-- How many connections the client of a table server keeps. -/
def poolSize : Nat :=
  1

/-- Opens the table on a table server. -/
def openTable (url : String) (w : World) : Outcome World StoreError Place :=
  match (Tables.connect w.machine.user url).within World.tables World.setTables w with
  | (.error e, w) => ⟨.error e, [], w⟩
  | (.ok name, w) =>
    ⟨.ok (.table name poolSize), [⟨.info, .tables, "Connected to PostgreSQL"⟩], w⟩

/-- Opens the store that a scheme stands for. -/
def openKind (kind : Option StoreKind) (url : String) (w : World) :
    Outcome World StoreError Place :=
  match kind with
  | some .documents => openDocuments url w
  | some .table => openTable url w
  | some .memory =>
    let (place, w) := w.addMemory (.ofRecords [])
    ⟨.ok place, [], w⟩
  | none => ⟨.error (.unsupportedUrl (scheme url)), [], w⟩

/-- Opens the store that a URL names. -/
def connect (url : String) (w : World) : Outcome World StoreError Place :=
  let opening : Event := ⟨.debug, .connecting, "Opening " ++ scheme url ++ " store"⟩
  (openKind (StoreKind.ofScheme? (scheme url)) url w).after [opening]

end World

end Roster
