import Roster.Proofs.Store.Operation
import Roster.Proofs.Tables.Rows

/-!
# `Roster.Proofs.Tables.Transaction`: a table is never half written

A statement is answered with an error and then the database only noted it,
or it has its effect (`Database.execute_cases`). From this follows what
each operation of the store does. A replace is a transaction: whichever
of its statements fails, the table is the one from before it, and no
transaction stays open (`replace_eq_error`). If all succeed, the table
holds the batch alone (`replace_eq_ok`).

`Database.Sound` is what holds between operations, come what may: no
transaction is open, and the next identifier is greater than those in
use. `perform_sound` shows that every operation keeps it. Given that,
the store follows the list (`store_follows`) and a failure changes
nothing that is kept (`store_spares`).
-/

set_option autoImplicit false

namespace Roster.Tables

open Store (Operation)

namespace Database

/-- The names that the table keeps, by identifier. -/
def kept (s : Database) : List (Option String × Option String) :=
  namesOf s.rows

/-- The same table has the same rows. -/
theorem rows_of_table {s s' : Database} (h : s'.table = s.table) : s'.rows = s.rows := by
  unfold rows
  rw [h]

/-- The rows of a table that is there. -/
theorem rows_eq {s : Database} {rows : List Row} (h : s.table = some rows) : s.rows = rows := by
  unfold Database.rows
  rw [h]
  rfl

/-- A table that is there consists of its rows. -/
theorem table_eq_rows {s : Database} (h : s.table.isSome) : s.table = some s.rows := by
  obtain ⟨rows, hrows⟩ := Option.isSome_iff_exists.mp h
  rw [hrows, rows_eq hrows]

/-- The same table keeps the same names. -/
theorem kept_of_table {s s' : Database} (h : s'.table = s.table) : s'.kept = s.kept := by
  unfold kept
  rw [rows_of_table h]

/-! ### Statements -/

/-- The database after it noted a statement: the statement is kept, and
the fault that strikes it is used up. -/
def noted (s : Database) (statement : Statement) : Database :=
  ((s.receive statement).strike statement).2

@[simp]
theorem noted_table (s : Database) (statement : Statement) :
    (s.noted statement).table = s.table := rfl

@[simp]
theorem noted_nextId (s : Database) (statement : Statement) :
    (s.noted statement).nextId = s.nextId := rfl

@[simp]
theorem noted_saved (s : Database) (statement : Statement) :
    (s.noted statement).saved = s.saved := rfl

@[simp]
theorem noted_migrations (s : Database) (statement : Statement) :
    (s.noted statement).migrations = s.migrations := rfl

/-- A statement is struck by the first fault that waits for its kind. If
there is none, it has its effect or the error that goes with it. -/
theorem execute_eq (statement : Statement) (s : Database) :
    s.execute statement =
      match s.faults.find? (some ·.kind = statement.kind?) with
      | some fault => (.error fault.text, s.noted statement)
      | none =>
        match (s.noted statement).effect statement with
        | .ok s' => (.ok (), s')
        | .error text => (.error text, s.noted statement) := by
  have hstrike : (s.receive statement).strike statement =
      (s.faults.find? (some ·.kind = statement.kind?), s.noted statement) := rfl
  unfold execute
  rw [hstrike]
  cases s.faults.find? (some ·.kind = statement.kind?) with
  | some fault => rfl
  | none => cases heffect : (s.noted statement).effect statement <;> simp only [heffect]

/-- No fault waits for a statement without a kind. -/
theorem find?_fault_of_unkinded {statement : Statement} (h : statement.kind? = none)
    (s : Database) : s.faults.find? (some ·.kind = statement.kind?) = none := by
  rw [List.find?_eq_none]
  intro fault _
  simp [h]

/-- A statement is only noted, or it has its effect. -/
theorem execute_cases (statement : Statement) (s : Database) :
    (∃ text, s.execute statement = (.error text, s.noted statement)) ∨
    ∃ s', (s.noted statement).effect statement = .ok s' ∧
      s.execute statement = (.ok (), s') := by
  rw [execute_eq]
  split
  · exact Or.inl ⟨_, rfl⟩
  · split
    · rename_i heffect
      exact Or.inr ⟨_, heffect, rfl⟩
    · exact Or.inl ⟨_, rfl⟩

/-- Rolling back puts the table and the record from the beginning of the
transaction in place. -/
theorem rollback_of_saved {s : Database} {table : Option (List Row)}
    {migrations : List Applied} (h : s.saved = some (table, migrations)) :
    (s.execute .rollback).2 = { s.noted .rollback with table, migrations, saved := none } := by
  rw [execute_eq, find?_fault_of_unkinded rfl]
  simp only [effect, noted_saved, h]

end Database

variable {s s' : Database}

/-- A statement that succeeds has its effect, however a refusal is seen. -/
theorem sendAs_eq_ok {refusal : String → StoreError} {statement : Statement}
    (hrun : sendAs refusal statement s = (.ok (), s')) :
    (s.noted statement).effect statement = .ok s' := by
  unfold sendAs at hrun
  rcases s.execute_cases statement with ⟨text, h⟩ | ⟨after, heffect, h⟩ <;>
    simp only [h] at hrun <;> cases hrun
  exact heffect

/-- A statement that fails is only noted, however its refusal is seen. -/
theorem sendAs_eq_error {refusal : String → StoreError} {statement : Statement} {e : StoreError}
    (hrun : sendAs refusal statement s = (.error e, s')) :
    s' = s.noted statement ∧ ∃ text, e = refusal text := by
  unfold sendAs at hrun
  rcases s.execute_cases statement with ⟨text, h⟩ | ⟨after, heffect, h⟩ <;>
    simp only [h] at hrun <;> cases hrun
  exact ⟨rfl, text, rfl⟩

/-- A statement of the store that succeeds has its effect. -/
theorem send_eq_ok {statement : Statement} (hrun : send statement s = (.ok (), s')) :
    (s.noted statement).effect statement = .ok s' :=
  sendAs_eq_ok hrun

/-- A statement of the store that fails is only noted. -/
theorem send_eq_error {statement : Statement} {e : StoreError}
    (hrun : send statement s = (.error e, s')) : s' = s.noted statement :=
  (sendAs_eq_error hrun).1

/-! ### Operations outside a transaction -/

/-- A clear that succeeds leaves an empty table. -/
theorem clear_eq_ok (hrun : clear s = (.ok (), s')) :
    s' = { s.noted .delete with table := some [] } := by
  have heffect := send_eq_ok hrun
  simp only [Database.effect] at heffect
  split at heffect <;> cases heffect
  rfl

/-- An insert that succeeds numbers the records of the batch and adds
them at the end. -/
theorem insert_eq_ok {batch : List Employee} {n : Nat}
    (hrun : insert batch s = (.ok n, s')) :
    n = batch.length ∧ s'.rows = s.rows ++ Database.number s.nextId batch ∧
      s'.nextId = s.nextId + batch.length ∧ s'.saved = s.saved ∧
      s'.table.isSome = s.table.isSome := by
  unfold insert at hrun
  split at hrun
  · rename_i hempty
    cases hrun
    rw [List.isEmpty_iff.mp hempty]
    exact ⟨rfl, (List.append_nil _).symm, (Int.add_zero _).symm, rfl, rfl⟩
  · split at hrun
    · cases hrun
    · obtain ⟨_, middle, hsend, hanswer⟩ := Access.andThen_eq_ok.mp hrun
      cases hanswer
      have heffect := send_eq_ok hsend
      simp only [Database.effect, Database.noted_table, Database.noted_nextId] at heffect
      split at heffect
      · cases heffect
      · rename_i rows htable
        split at heffect <;> cases heffect
        rw [Database.rows_eq htable, htable]
        exact ⟨rfl, rfl, rfl, rfl, rfl⟩

/-- An insert that fails changes no row. -/
theorem insert_eq_error {batch : List Employee} {e : StoreError}
    (hrun : insert batch s = (.error e, s')) :
    s'.table = s.table ∧ s'.nextId = s.nextId ∧ s'.saved = s.saved := by
  unfold insert at hrun
  split at hrun
  · cases hrun
  · split at hrun
    · cases hrun
      exact ⟨rfl, rfl, rfl⟩
    · rcases Access.andThen_eq_error.mp hrun with hsend | ⟨_, middle, _, hanswer⟩
      · rw [send_eq_error hsend]
        exact ⟨rfl, rfl, rfl⟩
      · cases hanswer

/-- The table is there, and no fault is in store for a listing. -/
structure Database.Answers (s : Database) : Prop where
  table : s.table.isSome
  unstruck : ∀ fault ∈ s.faults, fault.kind ≠ .select

/-- How a listing ends: its answer and the database that it leaves. -/
inductive Listed (s : Database) : Except StoreError (List Employee) × Database → Prop where
  | refused (h : ¬s.Answers) (text : String) :
      Listed s (.error (.table (.statement text)), s.noted .select)
  | read (h : s.Answers) : Listed s (s.sortedRows.mapM Row.toEmployee, s.noted .select)

/-- A listing ends in one of these ways. -/
theorem all_cases (s : Database) : Listed s (all s) := by
  have hstrike : (s.receive .select).strike .select =
      (s.faults.find? (some ·.kind = Statement.select.kind?), s.noted .select) := rfl
  simp only [all, Access.andThen, send, sendAs, Database.execute, hstrike]
  cases hfault : s.faults.find? (some ·.kind = Statement.select.kind?) with
  | some fault =>
    refine .refused (fun h => h.unstruck fault (List.mem_of_find?_eq_some hfault) ?_) fault.text
    simpa [Statement.kind?] using List.find?_some hfault
  | none =>
    simp only [Database.effect, Database.noted_table]
    cases htable : s.table with
    | none => exact .refused (fun h => by simpa [htable] using h.table) Database.noTable
    | some rows =>
      refine .read ⟨by rw [htable]; rfl, fun fault hmem => ?_⟩
      simpa [Statement.kind?] using List.find?_eq_none.mp hfault fault hmem

/-- Listing changes no row. -/
theorem all_state (s : Database) :
    (all s).2.table = s.table ∧ (all s).2.nextId = s.nextId ∧ (all s).2.saved = s.saved := by
  have hcases := all_cases s
  generalize all s = run at hcases
  cases hcases <;> exact ⟨rfl, rfl, rfl⟩

/-! ### The transaction of a replace -/

/-- What a replace does after its transaction began. -/
def replaceBody (batch : List Employee) : Access Database Nat :=
  clear.andThen fun _ => (insert batch).andThen fun count =>
    (send .commit).andThen fun _ s => (.ok count, s)

/-- If all statements of a replace succeed, the table holds the batch
alone and the transaction is closed. -/
theorem replaceBody_eq_ok {batch : List Employee} {n : Nat}
    (hrun : replaceBody batch s = (.ok n, s')) :
    n = batch.length ∧ s'.table = some (Database.number s.nextId batch) ∧
      s'.nextId = s.nextId + batch.length ∧ s'.saved = none := by
  obtain ⟨_, cleared, hclear, hrun⟩ := Access.andThen_eq_ok.mp hrun
  obtain ⟨count, inserted, hinsert, hrun⟩ := Access.andThen_eq_ok.mp hrun
  obtain ⟨_, committed, hcommit, hanswer⟩ := Access.andThen_eq_ok.mp hrun
  cases hanswer
  obtain ⟨hcount, hrows, hnext, _, htable⟩ := insert_eq_ok hinsert
  rw [clear_eq_ok hclear] at hrows hnext htable
  have heffect := send_eq_ok hcommit
  simp only [Database.effect] at heffect
  cases heffect
  exact ⟨hcount, (Database.table_eq_rows htable).trans (congrArg some hrows), hnext, rfl⟩

/-- If a statement of a replace fails, its transaction is still open, and
identifiers were at most used up. -/
theorem replaceBody_eq_error {batch : List Employee} {e : StoreError}
    (hrun : replaceBody batch s = (.error e, s')) :
    s'.saved = s.saved ∧ s.nextId ≤ s'.nextId := by
  rcases Access.andThen_eq_error.mp hrun with hclear | ⟨_, cleared, hclear, hrun⟩
  · rw [send_eq_error hclear]
    exact ⟨rfl, Int.le_refl _⟩
  · -- From here on the rows are gone, but `saved` still has them.
    have hcleared : cleared.saved = s.saved ∧ cleared.nextId = s.nextId := by
      rw [clear_eq_ok hclear]
      exact ⟨rfl, rfl⟩
    rw [← hcleared.1, ← hcleared.2]
    rcases Access.andThen_eq_error.mp hrun with hinsert | ⟨count, inserted, hinsert, hrun⟩
    · obtain ⟨_, hnext, hsaved⟩ := insert_eq_error hinsert
      exact ⟨hsaved, Int.le_of_eq hnext.symm⟩
    · obtain ⟨_, _, hnext, hsaved, _⟩ := insert_eq_ok hinsert
      rcases Access.andThen_eq_error.mp hrun with hcommit | ⟨_, committed, _, hanswer⟩
      · -- A commit that fails leaves the transaction open, rows and all.
        rw [send_eq_error hcommit, Database.noted_saved, Database.noted_nextId]
        exact ⟨hsaved, by omega⟩
      · cases hanswer

/-- What happens after the beginning of a transaction is undone if it
fails. -/
theorem orAbandon_eq_error {α : Type} {act : Access Database α} {e : StoreError}
    (hrun : orAbandon act s = (.error e, s')) :
    ∃ middle, act s = (.error e, middle) ∧ s' = (middle.execute .rollback).2 := by
  unfold orAbandon at hrun
  cases hact : act s with
  | mk result middle =>
    rw [hact] at hrun
    cases result <;> cases hrun
    exact ⟨middle, rfl, rfl⟩

/-- What succeeds is not undone. -/
theorem orAbandon_eq_ok {α : Type} {act : Access Database α} {a : α}
    (hrun : orAbandon act s = (.ok a, s')) : act s = (.ok a, s') := by
  unfold orAbandon at hrun
  cases hact : act s with
  | mk result middle =>
    rw [hact] at hrun
    cases result <;> cases hrun
    rfl

/-- Beginning a transaction saves the table and the record. -/
theorem begin_eq_ok {refusal : String → StoreError}
    (hrun : sendAs refusal .begin s = (.ok (), s')) :
    s' = { s.noted .begin with saved := some (s.table, s.migrations) } := by
  have heffect := sendAs_eq_ok hrun
  simp only [Database.effect] at heffect
  cases heffect
  rfl

/-- A replace that succeeds leaves the batch alone and no open
transaction. -/
theorem replace_eq_ok {batch : List Employee} {n : Nat}
    (hrun : replace batch s = (.ok n, s')) :
    n = batch.length ∧ s'.table = some (Database.number s.nextId batch) ∧
      s'.nextId = s.nextId + batch.length ∧ s'.saved = none := by
  obtain ⟨_, begun, hbegin, hrun⟩ := Access.andThen_eq_ok.mp hrun
  have h := replaceBody_eq_ok (orAbandon_eq_ok hrun)
  rw [begin_eq_ok hbegin] at h
  exact h

/-- A replace that fails leaves the rows from before it and no open
transaction, whichever of its statements failed. -/
theorem replace_eq_error {batch : List Employee} {e : StoreError} (h : s.saved = none)
    (hrun : replace batch s = (.error e, s')) :
    s'.table = s.table ∧ s.nextId ≤ s'.nextId ∧ s'.saved = none := by
  rcases Access.andThen_eq_error.mp hrun with hbegin | ⟨_, begun, hbegin, hrun⟩
  · rw [send_eq_error hbegin]
    exact ⟨rfl, Int.le_refl _, h⟩
  · -- Wherever the body stopped, rolling back finds the table from the
    -- beginning.
    obtain ⟨middle, hbody, rfl⟩ := orAbandon_eq_error hrun
    obtain ⟨hsaved, hnext⟩ := replaceBody_eq_error hbody
    rw [begin_eq_ok hbegin] at hsaved hnext
    rw [Database.rollback_of_saved hsaved]
    exact ⟨rfl, hnext, rfl⟩

/-! ### What holds between operations -/

/-- What holds between operations: no transaction is open, and the next
identifier is greater than those in use. -/
structure Database.Sound (s : Database) : Prop where
  closed : s.saved = none
  fresh : ∀ row ∈ s.rows, row.id < s.nextId

/-- The same rows stay sound however many identifiers are used up. -/
theorem Database.Sound.of_rows (h : s.Sound) (hrows : s'.rows = s.rows)
    (hnext : s.nextId ≤ s'.nextId) (hsaved : s'.saved = none) : s'.Sound where
  closed := hsaved
  fresh row hrow := by
    rw [hrows] at hrow
    exact Int.lt_of_lt_of_le (h.fresh row hrow) hnext

/-- Rows that were numbered last are sound. -/
theorem Database.sound_of_append (rows : List Row) {batch : List Employee}
    (hold : ∀ row ∈ rows, row.id < s.nextId)
    (hrows : s'.rows = rows ++ Database.number s.nextId batch)
    (hnext : s'.nextId = s.nextId + batch.length) (hsaved : s'.saved = none) :
    s'.Sound where
  closed := hsaved
  fresh row hrow := by
    rw [hrows] at hrow
    rw [hnext]
    rcases List.mem_append.mp hrow with hrow | hrow
    · have hid := hold row hrow
      omega
    · exact (Database.id_of_mem_number hrow).2

theorem clear_sound (h : s.Sound) : (clear s).2.Sound := by
  cases hrun : clear s with
  | mk result s' =>
    cases result with
    | ok _ =>
      rw [clear_eq_ok hrun]
      exact ⟨h.closed, by simp [Database.rows]⟩
    | error e =>
      rw [send_eq_error hrun]
      exact ⟨h.closed, h.fresh⟩

theorem insert_sound (h : s.Sound) (batch : List Employee) : (insert batch s).2.Sound := by
  cases hrun : insert batch s with
  | mk result s' =>
    cases result with
    | ok n =>
      obtain ⟨_, hrows, hnext, hsaved, _⟩ := insert_eq_ok hrun
      exact Database.sound_of_append s.rows h.fresh hrows hnext (hsaved.trans h.closed)
    | error e =>
      obtain ⟨htable, hnext, hsaved⟩ := insert_eq_error hrun
      exact h.of_rows (Database.rows_of_table htable) (Int.le_of_eq hnext.symm)
        (hsaved.trans h.closed)

theorem replace_sound (h : s.Sound) (batch : List Employee) :
    (replace batch s).2.Sound := by
  cases hrun : replace batch s with
  | mk result s' =>
    cases result with
    | ok n =>
      obtain ⟨_, htable, hnext, hsaved⟩ := replace_eq_ok hrun
      exact Database.sound_of_append [] (by simp) (Database.rows_eq htable) hnext hsaved
    | error e =>
      obtain ⟨htable, hnext, hsaved⟩ := replace_eq_error h.closed hrun
      exact h.of_rows (Database.rows_of_table htable) hnext hsaved

/-- Every operation leaves a sound table sound, whether it succeeds or
fails. -/
theorem perform_sound (h : s.Sound) (operation : Operation) :
    (Tables.store.perform operation s).2.Sound := by
  cases operation with
  | clear => exact clear_sound h
  | insert batch => exact insert_sound h batch
  | replace batch => exact replace_sound h batch
  | all =>
    obtain ⟨htable, hnext, hsaved⟩ := all_state s
    exact h.of_rows (Database.rows_of_table htable) (Int.le_of_eq hnext.symm)
      (hsaved.trans h.closed)

/-! ### Against the plain list -/

/-- A replace that succeeds keeps the batch alone, whatever was there
before. -/
theorem store_replaces (s : Database) :
    Tables.store.Replaces Database.kept Employee.names s := by
  intro batch n s' hrun
  obtain ⟨hcount, htable, _⟩ := replace_eq_ok hrun
  unfold Database.kept
  rw [Database.rows_eq htable]
  exact ⟨hcount, Database.namesOf_number _ _⟩

/-- The table follows the list. -/
theorem store_follows (h : s.Sound) (operation : Operation) :
    Tables.store.Follows Database.kept Employee.names operation s := by
  intro reply s' hrun
  cases operation with
  | clear =>
    obtain ⟨_, hclear, _⟩ := Access.map_eq_ok.mp hrun
    have hrows : s'.rows = [] := by
      rw [clear_eq_ok hclear]
      rfl
    unfold Database.kept
    rw [hrows]
    exact namesOf_nil
  | insert batch =>
    obtain ⟨_, hinsert, _⟩ := Access.map_eq_ok.mp hrun
    obtain ⟨_, hrows, _⟩ := insert_eq_ok hinsert
    unfold Database.kept
    rw [hrows]
    exact Database.namesOf_append_number s.rows h.fresh batch
  | replace batch =>
    obtain ⟨_, hreplace, _⟩ := Access.map_eq_ok.mp hrun
    exact (store_replaces s batch _ s' hreplace).2
  | all =>
    obtain ⟨_, hlist, _⟩ := Access.map_eq_ok.mp hrun
    have hsame := (all_state s).1
    rw [show all s = _ from hlist] at hsame
    exact Database.kept_of_table hsame

/-- A failure changes nothing that the table keeps. -/
theorem store_spares (h : s.Sound) (operation : Operation) :
    Tables.store.Spares Database.kept operation s := by
  intro e s' hrun
  refine Database.kept_of_table ?_
  cases operation with
  | clear =>
    rw [send_eq_error (Access.map_eq_error.mp hrun)]
    exact Database.noted_table ..
  | insert batch => exact (insert_eq_error (Access.map_eq_error.mp hrun)).1
  | replace batch => exact (replace_eq_error h.closed (Access.map_eq_error.mp hrun)).1
  | all =>
    have hsame := (all_state s).1
    rw [show all s = _ from Access.map_eq_error.mp hrun] at hsame
    exact hsame

end Roster.Tables
