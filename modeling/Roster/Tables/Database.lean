import Roster.Store.Error

/-!
# `Roster.Tables.Database`: a database with one table

A database keeps one table of rows and a record of the migrations that
were applied to it. The table may not be there yet. A row has an
identifier, which the database counts up, and two columns, which may be
null if the row came from elsewhere.

A transaction keeps what was there when it began, the table and the
record alike, and rolling back puts both in place again. Only the
identifiers that were counted up stay used. A statement that is answered
with an error has no effect; in particular, a commit that fails leaves its
transaction open. A queue of faults lets statements fail: a fault waits
for a kind of statement and strikes the next one, once.
-/

set_option autoImplicit false

namespace Roster.Tables

/-- A stored row. -/
structure Row where
  id : Int
  firstName : Option String
  lastName : Option String
deriving DecidableEq, Repr

/-- The record of a migration that was applied. -/
structure Applied where
  version : Int
  /-- Whether it was carried through to its end. -/
  finished : Bool
  /-- Whether its contents were those of the migration in hand. -/
  intact : Bool
deriving DecidableEq, Repr

/-- What whoever applies migrations asks of a database besides. Nothing of
it changes the table, or which migrations are recorded. -/
inductive Errand where
  /-- The name of the database. -/
  | name
  /-- No one else applies migrations meanwhile. -/
  | lock
  /-- There is a place for the record of migrations. -/
  | ensure
  /-- The unfinished migrations in the record. -/
  | unfinished
  /-- The record of migrations. -/
  | list
  /-- The time that a migration took is noted. -/
  | time
  /-- Others may apply migrations again. -/
  | unlock
deriving DecidableEq, Repr

/-- The statements that a database receives. -/
inductive Statement where
  | begin
  | delete
  | insert (records : List Employee)
  | select
  | commit
  | rollback
  /-- Creates the table unless it is there. -/
  | create
  /-- Records that a migration was applied. -/
  | record (version : Int) (description : String)
  | errand (errand : Errand)
deriving DecidableEq, Repr

/-- The kinds of statement that a fault can wait for. -/
inductive StatementKind where
  | begin
  | delete
  | insert
  | select
  | commit
  | create
  | record
  | errand (errand : Errand)
deriving DecidableEq, Repr

/-- The kind of a statement, if a fault can wait for it. -/
def Statement.kind? : Statement → Option StatementKind
  | .begin => some .begin
  | .delete => some .delete
  | .insert _ => some .insert
  | .select => some .select
  | .commit => some .commit
  | .create => some .create
  | .record .. => some .record
  | .errand e => some (.errand e)
  | .rollback => none

/-- A fault that waits for a statement, with the text of the answer. -/
structure Fault where
  kind : StatementKind
  text : String
deriving DecidableEq, Repr

/-- The state of a database. Statements are kept in the order of their
arrival, migrations in the order in which they were recorded. -/
structure Database where
  /-- The rows in the order in which they came, if there is a table. -/
  table : Option (List Row)
  /-- The identifier of the next row. -/
  nextId : Int
  migrations : List Applied
  /-- Whether the record of migrations is listed by version, as it is
  asked for, or else in the order of recording. -/
  listsByVersion : Bool
  /-- In a transaction, the table and the record of migrations that rolling
  back puts in place. -/
  saved : Option (Option (List Row) × List Applied)
  faults : List Fault
  received : List Statement
deriving DecidableEq, Repr, Inhabited

namespace Database

/-- A database with no table. -/
def empty (listsByVersion : Bool) : Database :=
  ⟨none, 1, [], listsByVersion, none, [], []⟩

/-- The stored rows, in the order in which they came. -/
def rows (s : Database) : List Row :=
  s.table.getD []

/-- What is said when the table is not there. -/
def noTable : String :=
  "relation \"employees\" does not exist"

/-- What is said of a name with a NUL in it. -/
def nulByte : String :=
  "invalid byte sequence for encoding \"UTF8\": 0x00"

/-- The database after it received a statement. -/
def receive (s : Database) (statement : Statement) : Database :=
  { s with received := s.received ++ [statement] }

/-- The fault that strikes a statement, and the database without it. -/
def strike (s : Database) (statement : Statement) : Option Fault × Database :=
  (s.faults.find? (some ·.kind = statement.kind?),
    { s with faults := s.faults.eraseP (some ·.kind = statement.kind?) })

/-- The database with one more fault in the queue. -/
def enqueue (s : Database) (fault : Fault) : Database :=
  { s with faults := s.faults ++ [fault] }

/-- New rows for records, with identifiers counted up. -/
def number (firstId : Int) : List Employee → List Row
  | [] => []
  | e :: rest => ⟨firstId, some e.firstName, some e.lastName⟩ :: number (firstId + 1) rest

/-- Whether a name of a record holds a NUL, which no column can. -/
def hasNul (e : Employee) : Bool :=
  e.firstName.toList.contains '\x00' || e.lastName.toList.contains '\x00'

/-- The effect of a statement that no fault strikes: the text of the
error, or the database after it. -/
def effect (s : Database) : Statement → Except String Database
  | .begin => .ok { s with saved := some (s.table, s.migrations) }
  | .delete =>
    match s.table with
    | none => .error noTable
    | some _ => .ok { s with table := some [] }
  | .insert records =>
    match s.table with
    | none => .error noTable
    | some rows =>
      if records.any hasNul then .error nulByte
      else
        .ok { s with
              table := some (rows ++ number s.nextId records)
              nextId := s.nextId + records.length }
  | .select =>
    match s.table with
    | none => .error noTable
    | some _ => .ok s
  | .commit => .ok { s with saved := none }
  | .rollback =>
    match s.saved with
    | none => .ok s
    | some (table, migrations) => .ok { s with table, migrations, saved := none }
  | .create =>
    match s.table with
    | none => .ok { s with table := some [] }
    | some _ => .ok s
  | .record version _ =>
    .ok { s with migrations := s.migrations ++ [⟨version, true, true⟩] }
  | .errand _ => .ok s

/-- Carries out a statement. -/
def execute (statement : Statement) (s : Database) : Except String Unit × Database :=
  match (s.receive statement).strike statement with
  | (some fault, s) => (.error fault.text, s)
  | (none, s) =>
    match s.effect statement with
    | .ok s => (.ok (), s)
    | .error text => (.error text, s)

/-- The record of migrations as it is listed. -/
def listedMigrations (s : Database) : List Applied :=
  if s.listsByVersion then s.migrations.mergeSort fun a b => a.version ≤ b.version
  else s.migrations

/-- The rows by identifier, those with the same one in the order in
which they came. -/
def sortedRows (s : Database) : List Row :=
  s.rows.mergeSort fun a b => a.id ≤ b.id

end Database

end Roster.Tables
