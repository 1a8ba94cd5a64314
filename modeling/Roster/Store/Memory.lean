import Roster.Store

/-!
# `Roster.Store.Memory`: a store inside the process

A list of records in memory. It replaces its records in one step, so no
failure leaves it half written. It can be put out of service: then
every operation fails and none changes the records.
-/

set_option autoImplicit false

namespace Roster

/-- The state of a store in memory. -/
structure Memory where
  records : List Employee
  unavailable : Bool
deriving DecidableEq, Repr, Inhabited

namespace Memory

/-- A store in service that holds some records. -/
def ofRecords (records : List Employee) : Memory :=
  ⟨records, false⟩

/-- An operation that fails while the store is out of service. -/
def inService {α : Type} (act : Memory → α × Memory) : Access Memory α := fun m =>
  if m.unavailable then (.error .unavailable, m) else (.ok (act m).1, (act m).2)

/-- The operations on a store in memory. -/
def store : Store Memory where
  collection := employeesCollection
  clear := inService fun m => ((), { m with records := [] })
  insert batch := inService fun m => (batch.length, { m with records := m.records ++ batch })
  all := inService fun m => (m.records, m)
  replace batch := inService fun m => (batch.length, { m with records := batch })

end Memory

end Roster
