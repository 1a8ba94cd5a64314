import Roster.Store
import Roster.Tables.Database

/-!
# `Roster.Tables.Store`: records in a table

A store of records in the table of a database. Inserting sends all
records in one statement, and no statement if there are none; a
statement has room for a limited number of arguments. Listing reads the
rows by identifier and fails as a whole if a column is null. Replacing
deletes and inserts in one transaction, which is rolled back if a step
of it fails.
-/

set_option autoImplicit false

namespace Roster.Tables

/-- The greatest number of arguments of one statement. -/
def argumentLimit : Nat :=
  65535

/-- Carries out a statement, an error being seen as a refusal of some
kind. -/
def sendAs (refusal : String → StoreError) (statement : Statement) : Access Database Unit :=
  fun s =>
    match s.execute statement with
    | (.ok (), s) => (.ok (), s)
    | (.error text, s) => (.error (refusal text), s)

/-- Carries out a statement of the store. -/
def send (statement : Statement) : Access Database Unit :=
  sendAs (fun text => .table (.statement text)) statement

/-- Removes all rows. -/
def clear : Access Database Unit :=
  send .delete

/-- Adds records at the end. A batch that has more arguments than a
statement has room for is not sent. -/
def insert (records : List Employee) : Access Database Nat := fun s =>
  if records.isEmpty then (.ok 0, s)
  else if argumentLimit < 2 * records.length then
    (.error (.table (.tooManyArguments (2 * records.length))), s)
  else (send (.insert records)).andThen (fun _ s => (.ok records.length, s)) s

/-- The record in a row, or the name of its first column that is
null. -/
def Row.toEmployee (row : Row) : Except StoreError Employee :=
  match row.firstName, row.lastName with
  | some first, some last => .ok ⟨first, last⟩
  | none, _ => .error (.table (.nullColumn "first_name"))
  | some _, none => .error (.table (.nullColumn "last_name"))

/-- Lists the records. -/
def all : Access Database (List Employee) :=
  (send .select).andThen fun _ s => (s.sortedRows.mapM Row.toEmployee, s)

/-- Undoes the open transaction after a failure. -/
def abandon {α : Type} (e : StoreError) : Access Database α := fun s =>
  (.error e, (s.execute .rollback).2)

/-- Carries out a step of a transaction, which is undone if the step
fails. -/
def orAbandon {α : Type} (act : Access Database α) : Access Database α := fun s =>
  match act s with
  | (.ok a, s) => (.ok a, s)
  | (.error e, s) => abandon e s

/-- Replaces all records in one transaction. -/
def replace (records : List Employee) : Access Database Nat :=
  (send .begin).andThen fun _ =>
    orAbandon (clear.andThen fun _ => (insert records).andThen fun count =>
      (send .commit).andThen fun _ s => (.ok count, s))

/-- The operations on the records of the table. -/
def store : Store Database where
  collection := employeesCollection
  clear := clear
  insert := insert
  all := all
  replace := replace

end Roster.Tables
