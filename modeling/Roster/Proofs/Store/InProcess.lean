import Roster.Proofs.Store.TwoStep
import Roster.Store.Memory
import Roster.Store.Scripted

/-!
# `Roster.Proofs.Store.InProcess`: stores inside the process

A store in memory is the plain list with a switch in front of it:
`Memory.perform_eq` says all that it does, so it follows the list and a
failure changes nothing. A store that fails on demand replaces in two
steps; `Scripted.store_twoStep` shows that it keeps what such a store
promises, whatever failures are to come, and `Scripted.perform_of_calm`
that it is the plain list while there are none.
-/

set_option autoImplicit false

namespace Roster

open Store (Operation)

/-! ### In memory -/

namespace Memory

/-- A store in memory is the plain list while it is in service, and
refuses everything while it is not. -/
theorem perform_eq (operation : Operation) (m : Memory) :
    Memory.store.perform operation m =
      if m.unavailable then (.error .unavailable, m)
      else (.ok (operation.answer m.records),
        { m with records := operation.leave id m.records }) := by
  obtain ⟨records, unavailable⟩ := m
  cases unavailable <;>
    cases operation <;>
      simp [Store.perform, Memory.store, Access.map, inService, Except.map,
        Operation.answer, Operation.leave]

/-- A store in memory follows the list. -/
theorem store_follows (operation : Operation) (m : Memory) :
    Memory.store.Follows Memory.records id operation m := by
  intro reply m' hrun
  rw [perform_eq] at hrun
  split at hrun
  · cases hrun
  · cases hrun
    rfl

/-- A failure changes nothing in memory. -/
theorem store_spares (operation : Operation) (m : Memory) :
    Memory.store.Spares Memory.records operation m := by
  intro e m' hrun
  rw [perform_eq] at hrun
  split at hrun
  · cases hrun
    rfl
  · cases hrun

/-- A replace in memory that succeeds leaves exactly the batch. -/
theorem store_replaces (m : Memory) : Memory.store.Replaces Memory.records id m := by
  intro batch n m' hrun
  simp only [Memory.store, inService] at hrun
  split at hrun
  · cases hrun
  · cases hrun
    exact ⟨rfl, (List.map_id _).symm⟩

/-- Only a store in service does what it is asked, and it stays in
service. -/
theorem available_of_perform {operation : Operation} {reply : Store.Reply} {m m' : Memory}
    (hrun : Memory.store.perform operation m = (.ok reply, m')) : m'.unavailable = false := by
  rw [perform_eq] at hrun
  split at hrun
  · cases hrun
  · rename_i havailable
    cases hrun
    exact Bool.eq_false_iff.mpr havailable

/-- A store in service lists its records. -/
theorem all_of_available {m : Memory} (h : m.unavailable = false) :
    (Memory.store.all m).1 = .ok m.records := by
  simp [Memory.store, inService, h]

end Memory

/-! ### Failing on demand -/

namespace Scripted

/-- Looking for a failure leaves the records alone. -/
@[simp]
theorem strike_records (s : Scripted) (call : Call) :
    (s.strike call).2.records = s.records := rfl

/-- A clear that succeeds leaves no record. -/
theorem clear_eq_ok {s s' : Scripted} (hrun : clear s = (.ok (), s')) : s'.records = [] := by
  unfold clear at hrun
  cases h : s.strike .clear with
  | mk failure struck =>
    rw [h] at hrun
    cases failure <;> cases hrun
    rfl

/-- A clear that fails only uses up the failure that struck it. -/
theorem clear_eq_error {e : StoreError} {s s' : Scripted}
    (hrun : clear s = (.error e, s')) : s' = (s.strike .clear).2 := by
  unfold clear at hrun
  cases h : s.strike .clear with
  | mk failure struck =>
    rw [h] at hrun
    cases failure <;> cases hrun
    rfl

/-- An insert that succeeds adds the batch at the end. -/
theorem insert_eq_ok {batch : List Employee} {n : Nat} {s s' : Scripted}
    (hrun : insert batch s = (.ok n, s')) :
    n = batch.length ∧ s'.records = s.records ++ batch := by
  unfold insert at hrun
  have hrecords := strike_records s .insert
  cases h : s.strike .insert with
  | mk failure struck =>
    rw [h] at hrun hrecords
    cases failure <;> cases hrun
    exact ⟨rfl, congrArg (· ++ batch) hrecords⟩

/-- An insert that fails adds the start of the batch. -/
theorem insert_eq_error {batch : List Employee} {e : StoreError} {s s' : Scripted}
    (hrun : insert batch s = (.error e, s')) :
    ∃ written, written <+: batch ∧ s'.records = s.records ++ written := by
  unfold insert at hrun
  have hrecords := strike_records s .insert
  cases h : s.strike .insert with
  | mk failure struck =>
    rw [h] at hrun hrecords
    cases failure with
    | none => cases hrun
    | some f =>
      cases hrun
      exact ⟨batch.take f.written, List.take_prefix _ _,
        congrArg (· ++ batch.take f.written) hrecords⟩

/-- Listing leaves the records alone. -/
theorem all_records (s : Scripted) : (all s).2.records = s.records := by
  unfold all
  have hrecords := strike_records s .all
  cases h : s.strike .all with
  | mk failure struck =>
    rw [h] at hrecords
    cases failure <;> exact hrecords

/-- A listing that succeeds shows the records that are there. -/
theorem all_eq_ok {found : List Employee} {s s' : Scripted} (hrun : all s = (.ok found, s')) :
    s'.records = found := by
  unfold all at hrun
  cases h : s.strike .all with
  | mk failure struck =>
    rw [h] at hrun
    cases failure <;> cases hrun
    rfl

/-- A store that fails on demand keeps what a store promises that
replaces in two steps. -/
theorem store_twoStep (collection : String) :
    (store collection).TwoStep (fun _ => True) Scripted.records id where
  replace_eq := rfl
  clear_ok _ hrun := clear_eq_ok hrun
  clear_error hrun := by
    rw [clear_eq_error hrun]
    rfl
  insert_ok hrun := by
    rw [List.map_id]
    exact insert_eq_ok hrun
  insert_error hrun := by
    simpa using insert_eq_error hrun

/-- A store that fails on demand follows the list. -/
theorem store_follows (collection : String) (operation : Operation) (s : Scripted) :
    (store collection).Follows Scripted.records id operation s := by
  refine (store_twoStep collection).follows ?_ operation trivial
  intro records s s' hrun
  have hall := all_records s
  rw [show all s = _ from hrun] at hall
  exact hall

/-- Without failures to come, a store that fails on demand is the plain
list. -/
theorem perform_of_calm (collection : String) (operation : Operation) {s : Scripted}
    (h : s.failures = []) :
    (store collection).perform operation s =
      (.ok (operation.answer s.records),
        { s with records := operation.leave id s.records }) := by
  obtain ⟨records, failures⟩ := s
  subst h
  cases operation <;>
    simp [Store.perform, store, Store.clearThenInsert, Access.andThen, Access.map, clear,
      insert, all, strike, Except.map, Operation.answer, Operation.leave]

/-- A listing that no failure waits for shows the records. -/
theorem all_of_calm {s : Scripted} (h : ∀ f ∈ s.failures, f.call ≠ .all) :
    (all s).1 = .ok s.records := by
  have hnone : s.failures.find? (·.call = .all) = none := by
    rw [List.find?_eq_none]
    intro f hf
    simpa using h f hf
  simp [all, strike, hnone]

end Scripted

end Roster
