import Roster.Store

/-!
# `Roster.Store.Scripted`: a store that fails on demand

A list of records with a queue of failures that are to come. A failure
waits for one of the calls clear, insert and list, and strikes the next
such call once; of several that wait for the same call, the oldest
strikes first. A failing insert first writes the start of its batch. The
store has no replace of its own, so it clears and then inserts.
-/

set_option autoImplicit false

namespace Roster

/-- A call that a failure can wait for. -/
inductive Call where
  | clear
  | insert
  | all
deriving DecidableEq, Repr

/-- A failure that is to come. A failing insert first writes at most
`written` records. -/
structure Failure where
  call : Call
  error : StoreError
  written : Nat
deriving DecidableEq, Repr

/-- The state of a store that fails on demand. The oldest failure comes
first. -/
structure Scripted where
  records : List Employee
  failures : List Failure
deriving DecidableEq, Repr, Inhabited

namespace Scripted

/-- A store with no failure to come. -/
def ofRecords (records : List Employee) : Scripted :=
  ⟨records, []⟩

/-- The store with one more failure to come. -/
def enqueue (s : Scripted) (failure : Failure) : Scripted :=
  { s with failures := s.failures ++ [failure] }

/-- The failure that strikes a call, and the store without it. -/
def strike (s : Scripted) (call : Call) : Option Failure × Scripted :=
  (s.failures.find? (·.call = call),
    { s with failures := s.failures.eraseP (·.call = call) })

/-- Removes all records. A failing clear removes none. -/
def clear : Access Scripted Unit := fun s =>
  match s.strike .clear with
  | (some f, s) => (.error f.error, s)
  | (none, s) => (.ok (), { s with records := [] })

/-- Adds records at the end. -/
def insert (batch : List Employee) : Access Scripted Nat := fun s =>
  match s.strike .insert with
  | (some f, s) => (.error f.error, { s with records := s.records ++ batch.take f.written })
  | (none, s) => (.ok batch.length, { s with records := s.records ++ batch })

/-- Lists the records. -/
def all : Access Scripted (List Employee) := fun s =>
  match s.strike .all with
  | (some f, s) => (.error f.error, s)
  | (none, s) => (.ok s.records, s)

/-- The operations on a store that fails on demand. -/
def store (collection : String) : Store Scripted where
  collection := collection
  clear := clear
  insert := insert
  all := all
  replace := Store.clearThenInsert clear insert

end Scripted

end Roster
