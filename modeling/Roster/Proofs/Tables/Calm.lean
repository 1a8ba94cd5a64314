import Roster.Proofs.Tables.Transaction

/-!
# `Roster.Proofs.Tables.Calm`: a table without faults

While no fault is to come (`Database.Calm`), the table is the plain list
that skips what a statement cannot carry: a batch with too many names
for the arguments of one statement, or with a NUL in a name
(`refusal`). `perform_of_calm` is the main statement; a batch that is
refused in the middle of a replace takes the whole replace back.
-/

set_option autoImplicit false

namespace Roster.Tables

open Store (Operation)

variable {s s' : Database}

/-- Why a batch cannot be written, if it cannot: a statement has room for
the names of 32767 records, and no name may hold a NUL. -/
def refusal (batch : List Employee) : Option StoreError :=
  if 32767 < batch.length then some (.table (.tooManyArguments (2 * batch.length)))
  else if batch.any Database.hasNul then some (.table (.statement Database.nulByte))
  else none

/-- What a table refuses. -/
def refuses : Operation → Option StoreError
  | .insert batch | .replace batch => refusal batch
  | .clear | .all => none

/-- The table is there, and no fault is to come. -/
structure Database.Calm (s : Database) : Prop where
  table : s.table.isSome
  faults : s.faults = []

/-- Noting a statement lets no fault come up. -/
theorem Database.Calm.noted (h : s.Calm) (statement : Statement) :
    (s.noted statement).Calm where
  table := h.table
  faults := by
    show s.faults.eraseP _ = []
    rw [h.faults]
    rfl

/-- Without faults to come, a statement has its effect or the error that
goes with it. -/
theorem Database.execute_of_calm {statement : Statement} {s : Database} (h : s.faults = []) :
    s.execute statement =
      match (s.noted statement).effect statement with
      | .ok s' => (.ok (), s')
      | .error text => (.error text, s.noted statement) := by
  have hrun := s.execute_eq statement
  rw [h, List.find?_nil] at hrun
  exact hrun

/-- A calm database carries out a statement that it can carry out. -/
theorem send_of_effect (h : s.Calm) {statement : Statement}
    (heffect : (s.noted statement).effect statement = .ok s') :
    send statement s = (.ok (), s') := by
  simp only [send, sendAs, Database.execute_of_calm h.faults, heffect]

/-- A calm database refuses a statement that it cannot carry out. -/
theorem send_of_refused (h : s.Calm) {statement : Statement} {text : String}
    (heffect : (s.noted statement).effect statement = .error text) :
    send statement s = (.error (.table (.statement text)), s.noted statement) := by
  simp only [send, sendAs, Database.execute_of_calm h.faults, heffect]

/-- A calm clear succeeds. -/
theorem clear_of_calm (h : s.Calm) :
    clear s = (.ok (), { s.noted .delete with table := some [] }) := by
  obtain ⟨rows, hrows⟩ := Option.isSome_iff_exists.mp h.table
  refine send_of_effect h ?_
  simp only [Database.effect, Database.noted_table, hrows]

/-- A calm insert succeeds unless its batch cannot be written, and leaves
the database calm and an open transaction open. -/
theorem insert_of_calm (h : s.Calm) (batch : List Employee) :
    ∃ s', insert batch s = ((refusal batch).elim (.ok batch.length) .error, s') ∧
      s'.Calm ∧ s'.saved = s.saved := by
  unfold insert refusal
  obtain ⟨rows, hrows⟩ := Option.isSome_iff_exists.mp h.table
  split
  · rename_i hempty
    rw [List.isEmpty_iff.mp hempty]
    exact ⟨s, by simp, h, rfl⟩
  · by_cases hlong : 32767 < batch.length
    · rw [if_pos hlong, if_pos (by unfold argumentLimit; omega)]
      exact ⟨s, rfl, h, rfl⟩
    · rw [if_neg hlong, if_neg (by unfold argumentLimit; omega)]
      have hnoted := h.noted (.insert batch)
      cases hnul : batch.any Database.hasNul with
      | true =>
        refine ⟨s.noted (.insert batch), ?_, hnoted, rfl⟩
        refine Access.andThen_eq_error.mpr (Or.inl (send_of_refused h ?_))
        simp only [Database.effect, Database.noted_table, hrows, hnul, if_true]
      | false =>
        refine ⟨{ s.noted (.insert batch) with
            table := some (rows ++ Database.number s.nextId batch)
            nextId := s.nextId + batch.length }, ?_, ⟨rfl, hnoted.faults⟩, rfl⟩
        refine Access.andThen_eq_ok.mpr ⟨(), _, send_of_effect h ?_, rfl⟩
        simp only [Database.effect, Database.noted_table, Database.noted_nextId, hrows, hnul,
          Bool.false_eq_true, if_false]

/-- A calm replace succeeds unless its batch cannot be written. -/
theorem replace_of_calm (h : s.Calm) (batch : List Employee) :
    ∃ s', replace batch s = ((refusal batch).elim (.ok batch.length) .error, s') ∧
      s'.Calm := by
  have hbegin : send .begin s =
      (.ok (), { s.noted .begin with saved := some (s.table, s.migrations) }) :=
    send_of_effect h rfl
  have hbegun : Database.Calm { s.noted .begin with saved := some (s.table, s.migrations) } :=
    ⟨h.table, (h.noted .begin).faults⟩
  -- Begin and delete succeed; what becomes of the replace is decided by
  -- the insert.
  have hclear := clear_of_calm hbegun
  have hcleared := hbegun.noted .delete
  obtain ⟨inserted, hinsert, hinserted, hsaved⟩ := insert_of_calm
    (s := {
      Database.noted { s.noted .begin with saved := some (s.table, s.migrations) } .delete with
      table := some [] }) ⟨rfl, hcleared.faults⟩ batch
  cases hrefusal : refusal batch with
  | none =>
    rw [hrefusal] at hinsert
    have hcommit : send .commit inserted =
        (.ok (), { inserted.noted .commit with saved := none }) :=
      send_of_effect hinserted rfl
    refine ⟨{ inserted.noted .commit with saved := none }, ?_,
      ⟨hinserted.table, (hinserted.noted .commit).faults⟩⟩
    refine Access.andThen_eq_ok.mpr ⟨(), _, hbegin, ?_⟩
    simp only [orAbandon, Access.andThen, hclear, hinsert, hcommit, Option.elim]
  | some e =>
    rw [hrefusal] at hinsert
    -- The insert fails, so the table from the beginning comes back.
    refine ⟨(inserted.execute .rollback).2, ?_, ?_⟩
    · refine Access.andThen_eq_error.mpr (Or.inr ⟨(), _, hbegin, ?_⟩)
      simp only [orAbandon, Access.andThen, hclear, hinsert, Option.elim, abandon]
    · rw [Database.rollback_of_saved hsaved]
      exact ⟨h.table, (hinserted.noted .rollback).faults⟩

/-- A listing that no fault waits for shows the records whose names the
table keeps. -/
theorem all_of_calm {records : List Employee} (htable : s.table.isSome)
    (hfaults : ∀ fault ∈ s.faults, fault.kind ≠ .select)
    (hkept : s.kept = records.map Employee.names) :
    all s = (.ok records, s.noted .select) := by
  have hread : s.sortedRows.mapM Row.toEmployee = .ok records :=
    mapM_toEmployee_of_names hkept
  have hcases := all_cases s
  generalize all s = run at hcases
  cases hcases with
  | refused h _ => exact absurd ⟨htable, hfaults⟩ h
  | read _ => rw [hread]

/-- What writes a batch unless it is refused answers like the plain list
that skips it. -/
theorem map_written_of_refusal {act : Access Database Nat} {operation : Operation}
    {batch records : List Employee} (hrefuses : refuses operation = refusal batch)
    (hanswer : operation.answer records = .written batch.length)
    (hrun : act s = ((refusal batch).elim (.ok batch.length) .error, s')) :
    act.map .written s = ((operation.attempt refuses records).1, s') := by
  unfold Operation.attempt
  rw [hrefuses, hanswer]
  cases hrefusal : refusal batch with
  | none =>
    rw [hrefusal] at hrun
    exact Access.map_eq_ok.mpr ⟨_, hrun, rfl⟩
  | some e =>
    rw [hrefusal] at hrun
    exact Access.map_eq_error.mpr hrun

/-- Without faults the table answers like the plain list that skips what
is refused. -/
theorem perform_of_calm (h : s.Calm) {records : List Employee}
    (hkept : s.kept = records.map Employee.names) (operation : Operation) :
    ∃ s', Tables.store.perform operation s = ((operation.attempt refuses records).1, s') ∧
      s'.Calm := by
  cases operation with
  | clear =>
    have hclear := clear_of_calm h
    exact ⟨_, Access.map_eq_ok.mpr ⟨(), hclear, rfl⟩, ⟨rfl, (h.noted .delete).faults⟩⟩
  | insert batch =>
    obtain ⟨s', hinsert, hcalm, _⟩ := insert_of_calm h batch
    exact ⟨s', map_written_of_refusal rfl rfl hinsert, hcalm⟩
  | replace batch =>
    obtain ⟨s', hreplace, hcalm⟩ := replace_of_calm h batch
    exact ⟨s', map_written_of_refusal rfl rfl hreplace, hcalm⟩
  | all =>
    have hall := all_of_calm h.table (by simp [h.faults]) hkept
    exact ⟨_, Access.map_eq_ok.mpr ⟨_, hall, rfl⟩, h.noted .select⟩

end Roster.Tables
