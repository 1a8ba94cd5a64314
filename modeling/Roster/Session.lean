import Roster.Session.Step

/-!
# `Roster.Session`: working with several stores by name

A session makes stores and gives them names. A name stands for a
handle, which says where records are kept and what can be done there: a
store can be cloned and wrapped in a seeder, a store that was opened by
its URL can only be moved into a seeder, and a seeder can seed and
verify on top of what its store can do. Clones and seeders share the
place of what they were made from. A name that is given again stands for
the new handle, and nothing else changes.

Each step has an answer: its result, what was told, and what is kept
afterwards, as far as it can be seen.
-/

set_option autoImplicit false

namespace Roster

/-- The state of a session. -/
structure Session where
  /-- What names stand for. -/
  handles : List (String × Handle)
  world : World
  /-- Whether the servers have been used, so that answers show them. -/
  documentsInUse : Bool
  tablesInUse : Bool
deriving Inhabited

/-- The answer to a step. -/
structure Answer where
  result : Except StepError Value
  events : List Event
  /-- The records at the place of the step's handle. -/
  records : Option (List Employee)
  documents : Option Documents.Server
  tables : Option Tables.Server

namespace Session

/-- A session in which nothing was done. -/
def start (world : World) : Session :=
  ⟨[], world, false, false⟩

/-- What a name stands for. -/
def handle? (s : Session) (name : String) : Option Handle :=
  s.handles.lookup name

/-- The session without a name. -/
def forget (s : Session) (name : String) : Session :=
  { s with handles := s.handles.filter (·.1 ≠ name) }

/-- The session in which a name stands for a handle. -/
def bind (s : Session) (name : String) (handle : Handle) : Session :=
  { s with handles := (name, handle) :: (s.forget name).handles }

/-- The session with another state of the world. -/
def withWorld (s : Session) (world : World) : Session :=
  { s with world }

/-- The session in which the document server has been used. -/
def usingDocuments (s : Session) : Session :=
  { s with documentsInUse := true }

/-- The session in which the table server has been used. -/
def usingTables (s : Session) : Session :=
  { s with tablesInUse := true }

/-- What a step comes to: its result, what was told, and the session
after it. -/
abbrev Reply := Outcome Session StepError Value

/-- A step that fails at once. -/
def refuse (s : Session) (e : StepError) : Reply :=
  ⟨.error e, [], s⟩

/-- A step that changes the session and has no value. -/
def done (s : Session) : Reply :=
  ⟨.ok .unit, [], s⟩

/-- The outcome of work on the world, as a step. -/
def ofWorld {ε α : Type} (s : Session) (wrap : ε → StepError) (value : α → Value)
    (outcome : Outcome World ε α) : Reply :=
  ⟨(outcome.result.mapError wrap).map value, outcome.events, s.withWorld outcome.state⟩

/-- The outcome of an operation of a store, as a step. -/
def ofAccess {α : Type} (s : Session) (value : α → Value) (act : Access World α) : Reply :=
  s.ofWorld .store value ⟨(act s.world).1, [], (act s.world).2⟩

/-- Names the place that was opened, unless opening failed. -/
def ofOpening (s : Session) (name : String) (form : Form)
    (outcome : Outcome World StoreError Place) : Reply :=
  let s := s.withWorld outcome.state
  match outcome.result with
  | .error e => ⟨.error (.store e), outcome.events, s⟩
  | .ok place =>
    let watched := (place.records? s.world).isSome
    ⟨.ok .unit, outcome.events, s.bind name ⟨place, form, watched⟩⟩

/-- The state of a store in memory, as it is shown. -/
def shownMemory (m : Memory) : String :=
  "MemoryStore \x7b state: Mutex \x7b data: State \x7b records: "
    ++ Employee.shownList m.records ++ ", unavailable: " ++ toString m.unavailable
    ++ " \x7d \x7d \x7d"

/-- What any handle can do: the operations of a store. -/
def storeAction? (s : Session) (store : Store World) : Action → Option Reply
  | .store operation => some (s.ofAccess .ofReply (store.perform operation))
  | .collection => some ⟨.ok (.text store.collection), [], s⟩
  | _ => none

/-- What a seeder can do besides. -/
def seederAction? (s : Session) (store : Store World) : Action → Option Reply
  | .seed => some (s.ofWorld .seed .count (Seeder.seed store s.world))
  | .verify => some (s.ofWorld .seed .records (Seeder.verify store s.world))
  | _ => none

/-- What a store of a known kind can do besides. -/
def kindAction? (s : Session) : Place → Action → Option Reply
  | .memory number, .setUnavailable unavailable =>
    some (s.withWorld (.setMemory number s.world
      { s.world.memory number with unavailable })).done
  | .memory number, .display => some ⟨.ok (.text (shownMemory (s.world.memory number))), [], s⟩
  | .scripted number _, .fail failure =>
    some (s.withWorld (.setScript number s.world
      ((s.world.script number).enqueue failure))).done
  | .table _ size, .poolSize => some ⟨.ok (.count size), [], s⟩
  | _, _ => none

/-- What is done on a handle. -/
def perform (s : Session) (handle : Handle) (action : Action) : Reply :=
  let special := match handle.form with
    | .store => s.kindAction? handle.place action
    | .opened => none
    | .seeder => s.seederAction? handle.place.store action
  (s.storeAction? handle.place.store action <|> special).getD (s.refuse .unsupported)

/-- Names a second handle for the place of a store. -/
def clone (s : Session) (source name : String) : Reply :=
  match s.handle? source with
  | none => s.refuse .unknownName
  | some handle =>
    if handle.form = .store then (s.bind name handle).done else s.refuse .unsupported

/-- Names a seeder for the place of a store. An opened store is moved
into the seeder, so that its name is gone, and its records are no
longer shown. -/
def makeSeeder (s : Session) (source name : String) : Reply :=
  match s.handle? source with
  | none => s.refuse .unknownName
  | some handle =>
    match handle.form with
    | .store => (s.bind name { handle with form := .seeder }).done
    | .opened => ((s.forget source).bind name ⟨handle.place, .seeder, false⟩).done
    | .seeder => s.refuse .unsupported

/-- How many connections a pool keeps that was made on its own. -/
def plainPoolSize : Nat :=
  10

/-- The record of migrations after an edit. -/
def editMigrations (migrations : List Tables.Applied) : MigrationEdit → List Tables.Applied
  | .modified => migrations.map fun m => { m with intact := false }
  | .dirty => migrations.map fun m => { m with finished := false }
  | .forget => []
  | .unknown version => migrations ++ [⟨version, true, true⟩]

/-- A database with more rows, as they are given. The table is there
afterwards. -/
def addRows (d : Tables.Database) (rows : List Tables.Row) : Tables.Database :=
  { d with table := some (d.rows ++ rows) }

/-- A database that goes on counting after the identifiers of some rows. -/
def countPast (d : Tables.Database) (rows : List Tables.Row) : Tables.Database :=
  { d with nextId := rows.foldl (fun n row => max n (row.id + 1)) d.nextId }

/-- The session with another state of the document server. -/
def changeDocuments (s : Session) (change : Documents.Server → Documents.Server) : Reply :=
  (s.usingDocuments.withWorld (s.world.setDocuments (change s.world.documents))).done

/-- The session with another state of a database of the table server. -/
def changeDatabase (s : Session) (name : String)
    (change : Tables.Database → Tables.Database) : Reply :=
  (s.usingTables.withWorld (.setDatabase name s.world (change (s.world.database name)))).done

/-- Puts documents into a collection. Those that come without an identifier
are given one. -/
def putDocuments (d : Documents.Server) (place : Documents.Namespace)
    (documents : List Documents.Document) : Documents.Server :=
  (d.countUp documents.length).appendAny place.name
    (Documents.Server.identify d.nextId documents)

/-- Names a store for the table of a database, if it is there. -/
def openDatabase (s : Session) (name database : String) : Reply :=
  if !s.world.tables.listening then s.refuse (.store (.table .unreachable))
  else if (s.world.tables.database? database).isNone then
    s.refuse (.store (.table (.statement (Tables.noDatabase database))))
  else (s.bind name ⟨.table database plainPoolSize, .store, false⟩).done

/-- The program is run on the servers. What it keeps in memory is gone
with it. -/
def runProgram (s : Session) (environment : Environment) : Reply :=
  let (transcript, world) := Program.transcript environment s.world
  ⟨.ok (.transcript transcript), [], s.withWorld { world with memories := s.world.memories }⟩

/-- Carries out a step. -/
def execute (s : Session) : Step → Reply
  | .memory name records =>
    let (place, world) := s.world.addMemory (.ofRecords records)
    ((s.withWorld world).bind name ⟨place, .store, true⟩).done
  | .scripted name collection records =>
    let (place, world) := s.world.addScripted collection (.ofRecords records)
    ((s.withWorld world).bind name ⟨place, .store, true⟩).done
  | .connect name url => s.ofOpening name .opened (s.world.connect url)
  | .connectDocuments name url => s.ofOpening name .store (s.world.openDocuments url)
  | .connectTable name url => s.ofOpening name .store (s.world.openTable url)
  | .documents name place =>
    (s.usingDocuments.bind name ⟨.documents ⟨place, true, .usual⟩, .store, false⟩).done
  | .table name database => s.usingTables.openDatabase name database
  | .clone source name => s.clone source name
  | .seeder source name => s.makeSeeder source name
  | .act name action =>
    match s.handle? name with
    | none => s.refuse .unknownName
    | some handle => s.perform handle action
  | .other name =>
    match s.handle? name with
    | none => s.refuse .unknownName
    | some _ => s.refuse .unsupported
  | .putDocuments place documents => s.changeDocuments fun d => putDocuments d place documents
  | .failCommand fault => s.changeDocuments fun d => d.enqueue fault
  | .putRows database rows =>
    s.changeDatabase database fun d => countPast (addRows d rows) rows
  | .failStatement database fault => s.changeDatabase database fun d => d.enqueue fault
  | .editMigrations database edit => s.changeDatabase database fun d =>
      { d with migrations := editMigrations d.migrations edit }
  | .program environment => s.runProgram environment

/-- The name that a step works on, or else the one that it makes. -/
def subject? : Step → Option String
  | .memory name _ | .scripted name _ _ | .connect name _ | .connectDocuments name _
  | .connectTable name _ | .documents name _ | .table name _ => some name
  | .clone source _ | .seeder source _ => some source
  | .act name _ | .other name => some name
  | .putDocuments .. | .failCommand _ | .putRows .. | .failStatement .. | .editMigrations ..
  | .program _ => none

/-- The records that are shown for a name. -/
def shownRecords (s : Session) (name : String) : Option (List Employee) :=
  (s.handle? name).bind fun handle =>
    if handle.watched then handle.place.records? s.world else none

/-- The answer that a reply gives. -/
def answer (reply : Reply) (subject : Option String) : Answer where
  result := reply.result
  events := reply.events
  records := subject.bind reply.state.shownRecords
  documents :=
    if reply.state.documentsInUse then some reply.state.world.documents else none
  tables := if reply.state.tablesInUse then some reply.state.world.tables else none

/-- The session in which the servers have received nothing yet. -/
def clearReceived (s : Session) : Session :=
  s.withWorld
    { s.world with
      documents := { s.world.documents with received := [] }
      tables := s.world.tables.mapDatabases fun d => { d with received := [] } }

/-- One step of a session. What the servers receive is told step by
step. -/
def step (s : Session) (step : Step) : Answer × Session :=
  let reply := s.clearReceived.execute step
  (answer reply (subject? step), reply.state)

/-- The session after some steps. -/
def after (s : Session) (steps : List Step) : Session :=
  steps.foldl (fun s step => (s.step step).2) s

end Session

end Roster
