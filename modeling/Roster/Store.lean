import Roster.Store.Error

/-!
# `Roster.Store`: where records are kept

A store keeps a list of records. It can be cleared, records can be
added at its end, all of them can be listed, and all of them can be
replaced. Each of these may fail, and a failure may leave the store
changed: so an operation is a function from the store's state to its
answer and its next state.

A store that has nothing better replaces its records in two steps,
first clearing and then inserting (`clearThenInsert`). If the second
step fails, the old records are gone.
-/

set_option autoImplicit false

namespace Roster

/-- The name of the collection, or of the table, that holds the
records. -/
def employeesCollection : String :=
  "employees"

/-- An operation on a store with states `σ`: its answer, and the state
that it leaves. -/
abbrev Access (σ α : Type) := σ → Except StoreError α × σ

namespace Access

variable {σ τ α β : Type}

/-- An operation that goes on with the answer of the one before, unless
that one failed. -/
def andThen (first : Access σ α) (next : α → Access σ β) : Access σ β := fun s =>
  match first s with
  | (.ok a, s) => next a s
  | (.error e, s) => (.error e, s)

/-- An operation with its answer changed. -/
def map (f : α → β) (act : Access σ α) : Access σ β := fun s =>
  ((act s).1.map f, (act s).2)

/-- An operation on a part of a larger state. -/
def within (get : τ → σ) (set : τ → σ → τ) (act : Access σ α) : Access τ α := fun t =>
  ((act (get t)).1, set t (act (get t)).2)

end Access

/-- A store with states `σ`. The numbers are counts of the records
written. -/
structure Store (σ : Type) where
  collection : String
  clear : Access σ Unit
  insert : List Employee → Access σ Nat
  all : Access σ (List Employee)
  replace : List Employee → Access σ Nat

namespace Store

variable {σ τ : Type}

/-- Replaces the records in two steps. -/
def clearThenInsert (clear : Access σ Unit) (insert : List Employee → Access σ Nat)
    (records : List Employee) : Access σ Nat :=
  clear.andThen fun _ => insert records

/-- What can be asked of any store. -/
inductive Operation where
  | clear
  | insert (records : List Employee)
  | replace (records : List Employee)
  | all
deriving DecidableEq, Repr

/-- The answer to an operation that succeeds. -/
inductive Reply where
  | cleared
  | written (count : Nat)
  | listed (records : List Employee)
deriving DecidableEq, Repr

/-- Carries out an operation. -/
def perform (store : Store σ) : Operation → Access σ Reply
  | .clear => store.clear.map fun _ => .cleared
  | .insert records => (store.insert records).map .written
  | .replace records => (store.replace records).map .written
  | .all => store.all.map .listed

/-- A store that is a part of a larger state. -/
def within (get : τ → σ) (set : τ → σ → τ) (store : Store σ) : Store τ where
  collection := store.collection
  clear := store.clear.within get set
  insert records := (store.insert records).within get set
  all := store.all.within get set
  replace records := (store.replace records).within get set

end Store

end Roster
