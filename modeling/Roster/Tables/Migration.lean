import Roster.Store
import Roster.Tables.Store

/-!
# `Roster.Tables.Migration`: bringing the table up to date

There is one migration, which creates the table. Whoever applies it keeps
others out meanwhile, makes a place for the record of migrations, and
checks what is recorded: no migration may be unfinished, none may be
unknown, and the one in hand must not have been applied with other
contents, in this order. Then it is applied unless it was before.

The migration and its entry in the record are written in one transaction,
so a migration that fails leaves neither. If the database refuses the
migration, the failure tells which one it was. Any other statement that is
refused makes a failure without a version: the errands before and after,
and the beginning, the entry and the commit of the transaction.
-/

set_option autoImplicit false

namespace Roster.Tables

/-- The version of the migration. -/
def migrationVersion : Int :=
  20250101000000

/-- What the migration does, as it is recorded. -/
def migrationDescription : String :=
  "create employees"

/-- The first migration of a list that was not finished, as what is wrong
with it. -/
def unfinished? (migrations : List Applied) : Option MigrationError :=
  (migrations.find? fun m => !m.finished).map fun m => .dirty m.version

/-- What is wrong with a list of finished migrations, if anything is. Of
several that are unknown, the one listed first is told. -/
def mismatch? (migrations : List Applied) : Option MigrationError :=
  match migrations.find? fun m => m.version ≠ migrationVersion with
  | some m => some (.unknown m.version)
  | none =>
    if migrations.any fun m => !m.intact then some (.modified migrationVersion) else none

/-- Whether the migration was applied. -/
def isApplied (migrations : List Applied) : Bool :=
  migrations.any fun m => m.version = migrationVersion

/-- Carries out a statement that goes with the migrations. -/
def sendOwn (statement : Statement) : Access Database Unit :=
  sendAs (fun text => .migration (.interrupted text)) statement

/-- Runs errands one after another, up to the first that is refused. -/
def runErrands : List Errand → Access Database Unit
  | [] => fun s => (.ok (), s)
  | errand :: rest => (sendOwn (.errand errand)).andThen fun _ => runErrands rest

/-- Fails with what is wrong with the record of migrations as it is listed,
if anything is. -/
def require (wrong? : List Applied → Option MigrationError) : Access Database Unit := fun s =>
  match wrong? s.listedMigrations with
  | some e => (.error (.migration e), s)
  | none => (.ok (), s)

/-- Records the migration, and commits what was done. -/
def recordAndCommit : Access Database Unit :=
  (sendOwn (.record migrationVersion migrationDescription)).andThen fun _ => sendOwn .commit

/-- Creates the table and records that. -/
def createAndRecord : Access Database Unit :=
  (sendAs (fun text => .migration (.failed migrationVersion text)) .create).andThen fun _ =>
    recordAndCommit

/-- Applies the migration in one transaction. -/
def apply : Access Database Unit :=
  (sendOwn .begin).andThen fun _ =>
  (orAbandon createAndRecord).andThen fun _ =>
  runErrands [.time]

/-- Applies the migration unless it was before. -/
def applyIfNew : Access Database Unit := fun s =>
  if isApplied s.migrations then (.ok (), s) else apply s

/-- Keeps others out and checks the record of migrations. -/
def check : Access Database Unit :=
  (runErrands [.name, .lock, .ensure, .unfinished]).andThen fun _ =>
  (require unfinished?).andThen fun _ =>
  (runErrands [.list]).andThen fun _ =>
  require mismatch?

/-- Brings the table up to date. -/
def migrate : Access Database Unit :=
  check.andThen fun _ =>
  applyIfNew.andThen fun _ =>
  runErrands [.name, .unlock]

end Roster.Tables
