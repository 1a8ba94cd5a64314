import Roster.Proofs.Tables.Transaction
import Roster.Tables.Migration

/-!
# `Roster.Proofs.Tables.Migration`: bringing a table up to date

A statement that goes with the migrations is refused by a fault that waits
for it, and by nothing else (`sendOwn_cases`). An errand leaves everything
that is stored as it was (`Database.Rests`); those that are carried out did
not even meet a fault (`runErrands_cases`).

The migration runs in a transaction. `Applied` lists how that can end:
either everything stored is as it was, or the table is there and its entry
is in the record (`Database.Gains`). There is nothing in between, whichever
of the statements fails (`apply_cases`).

So bringing the table up to date changes no row, leaves no transaction
open and uses no identifier up (`migrate_keeping`): a sound table stays
sound.
-/

set_option autoImplicit false

namespace Roster.Tables

namespace Database

/-- Between two states of a database, statements came in and faults were
used up. Nothing that is stored changed. -/
structure Rests (s s' : Database) : Prop where
  table : s'.table = s.table
  nextId : s'.nextId = s.nextId
  migrations : s'.migrations = s.migrations
  listsByVersion : s'.listsByVersion = s.listsByVersion
  saved : s'.saved = s.saved
  faults : s'.faults.Sublist s.faults

theorem Rests.refl (s : Database) : s.Rests s :=
  ⟨rfl, rfl, rfl, rfl, rfl, .refl _⟩

theorem Rests.trans {s₁ s₂ s₃ : Database} (h₁ : s₁.Rests s₂) (h₂ : s₂.Rests s₃) :
    s₁.Rests s₃ where
  table := h₂.table.trans h₁.table
  nextId := h₂.nextId.trans h₁.nextId
  migrations := h₂.migrations.trans h₁.migrations
  listsByVersion := h₂.listsByVersion.trans h₁.listsByVersion
  saved := h₂.saved.trans h₁.saved
  faults := h₂.faults.trans h₁.faults

/-- Noting a statement changes nothing that is stored. -/
theorem noted_rests (s : Database) (statement : Statement) : s.Rests (s.noted statement) :=
  ⟨rfl, rfl, rfl, rfl, rfl, List.eraseP_sublist⟩

/-- Between two states of a database, statements came in, and nothing else
happened. -/
def Heard (s s' : Database) : Prop :=
  ∃ statements, s' = { s with received := s.received ++ statements }

theorem Heard.refl (s : Database) : s.Heard s :=
  ⟨[], by rw [List.append_nil]⟩

theorem Heard.trans {s₁ s₂ s₃ : Database} (h₁ : s₁.Heard s₂) (h₂ : s₂.Heard s₃) :
    s₁.Heard s₃ := by
  obtain ⟨first, rfl⟩ := h₁
  obtain ⟨second, rfl⟩ := h₂
  exact ⟨first ++ second, by simp only [List.append_assoc]⟩

theorem heard_receive (s : Database) (statement : Statement) : s.Heard (s.receive statement) :=
  ⟨[statement], rfl⟩

theorem Heard.rests {s s' : Database} (h : s.Heard s') : s.Rests s' := by
  obtain ⟨statements, rfl⟩ := h
  exact ⟨rfl, rfl, rfl, rfl, rfl, .refl _⟩

theorem Heard.faults {s s' : Database} (h : s.Heard s') : s'.faults = s.faults := by
  obtain ⟨statements, rfl⟩ := h
  rfl

/-- The words in which a fault refuses a statement that goes with the
migrations. -/
def Interrupts (s : Database) (text : String) : Prop :=
  ∃ fault ∈ s.faults, fault.text = text ∧
    fault.kind ∉ [.create, .delete, .insert, .select]

theorem Interrupts.of_rests {s s' : Database} {text : String} (hrests : s.Rests s')
    (h : s'.Interrupts text) : s.Interrupts text := by
  obtain ⟨fault, hmem, htext, hkind⟩ := h
  exact ⟨fault, hrests.faults.subset hmem, htext, hkind⟩

/-- No fault waits for a kind of statement. -/
def Spared (s : Database) (kind : StatementKind) : Prop :=
  ∀ fault ∈ s.faults, fault.kind ≠ kind

/-- A statement that no fault waits for is received, and nothing else. -/
theorem noted_of_spared {s : Database} {statement : Statement} {kind : StatementKind}
    (hkind : statement.kind? = some kind) (h : s.Spared kind) :
    s.noted statement = s.receive statement := by
  have hfaults : s.faults.eraseP (some ·.kind = statement.kind?) = s.faults := by
    refine List.eraseP_of_forall_not fun fault hmem hstruck => ?_
    rw [hkind, decide_eq_true_eq, Option.some.injEq] at hstruck
    exact h fault hmem hstruck
  exact congrArg (fun faults => { s.receive statement with faults }) hfaults

/-- The words in which the database is going to reject the migration, if it
is. -/
def rejection? (s : Database) : Option String :=
  (s.faults.find? fun fault => fault.kind = .create).map Fault.text

/-- The table is there, with the rows it had, and the migration is in the
record. -/
structure Gains (s s' : Database) : Prop where
  table : s'.table = some s.rows
  nextId : s'.nextId = s.nextId
  migrations : s'.migrations = s.migrations ++ [⟨migrationVersion, true, true⟩]
  saved : s'.saved = none

theorem Gains.rows {s s' : Database} (h : s.Gains s') : s'.rows = s.rows :=
  rows_eq h.table

theorem Gains.of_rests {s s₁ s₂ : Database} (h : s.Gains s₁) (hrests : s₁.Rests s₂) :
    s.Gains s₂ where
  table := hrests.table.trans h.table
  nextId := hrests.nextId.trans h.nextId
  migrations := hrests.migrations.trans h.migrations
  saved := hrests.saved.trans h.saved

end Database

open Database (Heard Rests Interrupts Gains)

variable {s s' : Database}

/-! ### Statements -/

/-- A statement is refused by a fault that waits for it, or no fault does
and it has its effect. -/
theorem sendAs_cases (refusal : String → StoreError) (statement : Statement)
    {kind : StatementKind} (hkind : statement.kind? = some kind) (s : Database) :
    (∃ fault, s.faults.find? (fun fault => fault.kind = kind) = some fault ∧
      sendAs refusal statement s = (.error (refusal fault.text), s.noted statement)) ∨
    (s.Spared kind ∧
      sendAs refusal statement s =
        match (s.receive statement).effect statement with
        | .ok s' => (.ok (), s')
        | .error text => (.error (refusal text), s.receive statement)) := by
  have hfind : (fun fault : Fault => decide (some fault.kind = statement.kind?)) =
      fun fault => decide (fault.kind = kind) := by
    funext fault
    simp only [hkind, Option.some.injEq]
  have hrun := s.execute_eq statement
  rw [hfind] at hrun
  cases hfault : s.faults.find? fun fault => fault.kind = kind with
  | some fault =>
    rw [hfault] at hrun
    exact .inl ⟨fault, rfl, by simp only [sendAs, hrun]⟩
  | none =>
    have hspared : s.Spared kind := fun fault hmem => by
      simpa using List.find?_eq_none.mp hfault fault hmem
    rw [hfault, Database.noted_of_spared hkind hspared] at hrun
    refine .inr ⟨hspared, ?_⟩
    cases heffect : (s.receive statement).effect statement <;>
      simp only [sendAs, hrun, heffect]

/-- A statement that goes with the migrations is refused by a fault that
waits for it, or no fault does and it has its effect. -/
theorem sendOwn_cases (statement : Statement) {kind : StatementKind}
    (hkind : statement.kind? = some kind) (hown : kind ∉ [.create, .delete, .insert, .select])
    {after : Database} (heffect : (s.receive statement).effect statement = .ok after) :
    (∃ text, ¬s.Spared kind ∧ s.Interrupts text ∧
      sendOwn statement s = (.error (.migration (.interrupted text)), s.noted statement)) ∨
    (s.Spared kind ∧ sendOwn statement s = (.ok (), after)) := by
  rcases sendAs_cases (fun text => .migration (.interrupted text)) statement hkind s with
    ⟨fault, hfault, hrun⟩ | ⟨hspared, hrun⟩
  · have hfaultKind : fault.kind = kind := by simpa using List.find?_some hfault
    have hmem := List.mem_of_find?_eq_some hfault
    exact .inl ⟨fault.text, fun hspared => hspared fault hmem hfaultKind,
      ⟨fault, hmem, rfl, hfaultKind ▸ hown⟩, hrun⟩
  · rw [heffect] at hrun
    exact .inr ⟨hspared, hrun⟩

/-- Errands are run, and then no fault waited for any of them, or one of
them was refused. Nothing that is stored changes. -/
theorem runErrands_cases (errands : List Errand) (s : Database) :
    (∃ s', s.Heard s' ∧ (∀ errand ∈ errands, s.Spared (.errand errand)) ∧
      runErrands errands s = (.ok (), s')) ∨
    ∃ text s', s.Rests s' ∧ (∃ errand ∈ errands, ¬s.Spared (.errand errand)) ∧
      s.Interrupts text ∧
      runErrands errands s = (.error (.migration (.interrupted text)), s') := by
  induction errands generalizing s with
  | nil => exact .inl ⟨s, .refl s, by simp, rfl⟩
  | cons errand rest ih =>
    rcases sendOwn_cases (s := s) (.errand errand) rfl (by simp) rfl with
      ⟨text, hstruck, hwaits, hfirst⟩ | ⟨hspared, hfirst⟩
    · exact .inr ⟨text, _, s.noted_rests _, ⟨errand, List.mem_cons_self, hstruck⟩, hwaits,
        Access.andThen_eq_error.mpr (.inl hfirst)⟩
    · -- Receiving a statement uses no fault up.
      have hheard := s.heard_receive (.errand errand)
      rcases ih (s.receive (.errand errand)) with
        ⟨s', hheard', hrest, hrun⟩ | ⟨text, s', hrests, ⟨other, hmem, hstruck⟩, hwaits, hrun⟩
      · exact .inl ⟨s', hheard.trans hheard', List.forall_mem_cons.mpr ⟨hspared, hrest⟩,
          Access.andThen_eq_ok.mpr ⟨(), _, hfirst, hrun⟩⟩
      · exact .inr ⟨text, s', hheard.rests.trans hrests,
          ⟨other, List.mem_cons_of_mem _ hmem, hstruck⟩, hwaits.of_rests hheard.rests,
          Access.andThen_eq_error.mpr (.inr ⟨(), _, hfirst, hrun⟩)⟩

/-- Errands that no fault waits for are run. -/
theorem runErrands_of_spared {errands : List Errand}
    (h : ∀ errand ∈ errands, s.Spared (.errand errand)) :
    ∃ s', s.Heard s' ∧ runErrands errands s = (.ok (), s') := by
  rcases runErrands_cases errands s with
    ⟨s', hheard, _, hrun⟩ | ⟨_, _, _, ⟨errand, hmem, hstruck⟩, _, _⟩
  · exact ⟨s', hheard, hrun⟩
  · exact absurd (h errand hmem) hstruck

/-! ### The transaction of the migration -/

/-- Between two states of a database, what rolling back brings back did not
change. -/
structure Database.Underway (s s' : Database) : Prop where
  nextId : s'.nextId = s.nextId
  listsByVersion : s'.listsByVersion = s.listsByVersion
  saved : s'.saved = s.saved
  faults : s'.faults.Sublist s.faults

theorem Database.Underway.trans {s₁ s₂ s₃ : Database} (h₁ : s₁.Underway s₂)
    (h₂ : s₂.Underway s₃) : s₁.Underway s₃ where
  nextId := h₂.nextId.trans h₁.nextId
  listsByVersion := h₂.listsByVersion.trans h₁.listsByVersion
  saved := h₂.saved.trans h₁.saved
  faults := h₂.faults.trans h₁.faults

theorem Database.Rests.underway (h : s.Rests s') : s.Underway s' :=
  ⟨h.nextId, h.listsByVersion, h.saved, h.faults⟩

/-- The database in a transaction that has just begun. -/
def Database.begun (s : Database) : Database :=
  { s.receive .begin with saved := some (s.table, s.migrations) }

/-- What happened since the beginning of a transaction is undone by rolling
back. -/
theorem Database.Underway.rollback (h : s.begun.Underway s') (hclosed : s.saved = none) :
    s.Rests (s'.execute .rollback).2 := by
  rw [rollback_of_saved h.saved]
  exact ⟨rfl, h.nextId, rfl, h.listsByVersion, hclosed.symm,
    List.eraseP_sublist.trans h.faults⟩

/-- Creating the table leaves the rows that are there. -/
theorem Database.effect_create (s : Database) :
    s.effect .create = .ok { s with table := some s.rows } := by
  obtain ⟨table, _, _, _, _, _, _⟩ := s
  cases table <;> rfl

/-- The database after the migration was recorded. -/
def Database.recorded (s : Database) : Database :=
  { s.receive (.record migrationVersion migrationDescription) with
    migrations := s.migrations ++ [⟨migrationVersion, true, true⟩] }

/-- The database after the table was created. -/
def Database.created (s : Database) : Database :=
  { s.receive .create with table := some s.rows }

/-- The entry of the migration is written and committed, or one of the two
statements is refused and the transaction stays open. -/
theorem recordAndCommit_cases (s : Database) :
    (∃ text s', s.Interrupts text ∧ s.Underway s' ∧
      recordAndCommit s = (.error (.migration (.interrupted text)), s')) ∨
    recordAndCommit s = (.ok (), { s.recorded.receive .commit with saved := none }) := by
  rcases sendOwn_cases (s := s) (.record migrationVersion migrationDescription)
      rfl (by simp) rfl with ⟨text, _, hwaits, hrecord⟩ | ⟨_, hrecord⟩
  · exact .inl ⟨text, _, hwaits, (s.noted_rests _).underway,
      Access.andThen_eq_error.mpr (.inl hrecord)⟩
  rcases sendOwn_cases (s := s.recorded) .commit rfl (by simp) rfl with
    ⟨text, _, hwaits, hcommit⟩ | ⟨_, hcommit⟩
  · refine .inl ⟨text, _, hwaits, ?_,
      Access.andThen_eq_error.mpr (.inr ⟨(), _, hrecord, hcommit⟩)⟩
    exact ⟨rfl, rfl, rfl, List.eraseP_sublist⟩
  · exact .inr (Access.andThen_eq_ok.mpr ⟨(), _, hrecord, hcommit⟩)

/-- How creating and recording ends, in a transaction that has begun. -/
inductive Created (s : Database) : Except StoreError Unit × Database → Prop
  | rejected {text : String} {s' : Database} (rejects : s.rejection? = some text)
      (underway : s.Underway s') :
      Created s (.error (.migration (.failed migrationVersion text)), s')
  | interrupted {text : String} {s' : Database} (accepts : s.rejection? = none)
      (interrupts : s.Interrupts text) (underway : s.Underway s') :
      Created s (.error (.migration (.interrupted text)), s')
  | committed {s' : Database} (accepts : s.rejection? = none) (gains : s.Gains s')
      (faults : s'.faults = s.faults) :
      Created s (.ok (), s')

/-- Creating and recording ends in one of these ways. -/
theorem createAndRecord_cases (s : Database) : Created s (createAndRecord s) := by
  rcases sendAs_cases (fun text => .migration (.failed migrationVersion text)) .create
      rfl s with ⟨fault, hfault, hcreate⟩ | ⟨hspared, hcreate⟩
  · have hrejects : s.rejection? = some fault.text := by rw [Database.rejection?, hfault]; rfl
    rw [show createAndRecord s = _ from Access.andThen_eq_error.mpr (.inl hcreate)]
    exact .rejected hrejects (s.noted_rests .create).underway
  have haccepts : s.rejection? = none := by
    rw [Database.rejection?, Option.map_eq_none_iff, List.find?_eq_none]
    intro fault hmem
    simpa using hspared fault hmem
  rw [Database.effect_create] at hcreate
  -- The table is there now; its entry and the commit are still to come.
  have hcreated : s.Underway s.created := ⟨rfl, rfl, rfl, .refl _⟩
  rcases recordAndCommit_cases s.created with ⟨text, s', hwaits, hunder, hrest⟩ | hrest
  · rw [show createAndRecord s = _ from
      Access.andThen_eq_error.mpr (.inr ⟨(), _, hcreate, hrest⟩)]
    exact .interrupted haccepts hwaits (hcreated.trans hunder)
  · rw [show createAndRecord s = _ from Access.andThen_eq_ok.mpr ⟨(), _, hcreate, hrest⟩]
    exact .committed haccepts ⟨rfl, rfl, rfl, rfl⟩ rfl

/-- How applying the migration ends: its answer and the database that it
leaves. -/
inductive Application (s : Database) : Except StoreError Unit × Database → Prop
  /-- One of its own statements was refused before the commit. -/
  | interrupted {text : String} {s' : Database} (interrupts : s.Interrupts text)
      (rests : s.Rests s') : Application s (.error (.migration (.interrupted text)), s')
  | rejected {text : String} {s' : Database} (rejects : s.rejection? = some text)
      (rests : s.Rests s') :
      Application s (.error (.migration (.failed migrationVersion text)), s')
  /-- After the commit, the time that it took could not be noted. -/
  | untimed {text : String} {s' : Database} (accepts : s.rejection? = none)
      (interrupts : s.Interrupts text) (gains : s.Gains s') :
      Application s (.error (.migration (.interrupted text)), s')
  | applied {s' : Database} (accepts : s.rejection? = none) (gains : s.Gains s')
      (faults : s'.faults = s.faults) : Application s (.ok (), s')

/-- Applying the migration ends in one of these ways. -/
theorem apply_cases (hclosed : s.saved = none) : Application s (apply s) := by
  rcases sendOwn_cases (s := s) .begin rfl (by simp) rfl with
    ⟨text, _, hwaits, hbegin⟩ | ⟨_, hbegin⟩
  · rw [show apply s = _ from Access.andThen_eq_error.mpr (.inl hbegin)]
    exact .interrupted hwaits (s.noted_rests .begin)
  have hcases := createAndRecord_cases s.begun
  cases hrun : createAndRecord s.begun with
  | mk result middle =>
    rw [hrun] at hcases
    cases result with
    | error e =>
      -- What was done in the transaction is undone.
      have hbody : orAbandon createAndRecord s.begun =
          (.error e, (middle.execute .rollback).2) := by
        simp only [orAbandon, hrun, abandon]
      rw [show apply s = _ from Access.andThen_eq_error.mpr
        (.inr ⟨(), _, hbegin, Access.andThen_eq_error.mpr (.inl hbody)⟩)]
      cases hcases with
      | rejected rejects underway => exact .rejected rejects (underway.rollback hclosed)
      | interrupted _ interrupts underway =>
        exact .interrupted interrupts (underway.rollback hclosed)
    | ok _ =>
      have hbody : orAbandon createAndRecord s.begun = (.ok (), middle) := by
        simp only [orAbandon, hrun]
      cases hcases with
      | committed accepts gains faults =>
        have hgains : s.Gains middle := ⟨gains.table, gains.nextId, gains.migrations, gains.saved⟩
        rcases runErrands_cases [.time] middle with
          ⟨s', hheard, _, htime⟩ | ⟨text, s', hrests, _, ⟨fault, hmem, hfault⟩, htime⟩
        · rw [show apply s = _ from Access.andThen_eq_ok.mpr
            ⟨(), _, hbegin, Access.andThen_eq_ok.mpr ⟨(), _, hbody, htime⟩⟩]
          exact .applied accepts (hgains.of_rests hheard.rests) (hheard.faults.trans faults)
        · rw [show apply s = _ from Access.andThen_eq_error.mpr
            (.inr ⟨(), _, hbegin, Access.andThen_eq_error.mpr (.inr ⟨(), _, hbody, htime⟩)⟩)]
          exact .untimed accepts ⟨fault, faults ▸ hmem, hfault⟩ (hgains.of_rests hrests)

/-! ### What no migration changes -/

/-- Between two states of a database with no open transaction, rows and
identifiers stay, and no transaction was left open. -/
structure Database.Keeps (s s' : Database) : Prop where
  rows : s'.rows = s.rows
  nextId : s'.nextId = s.nextId
  closed : s.saved = none → s'.saved = none

theorem Database.Keeps.trans {s₁ s₂ s₃ : Database} (h₁ : s₁.Keeps s₂) (h₂ : s₂.Keeps s₃) :
    s₁.Keeps s₃ where
  rows := h₂.rows.trans h₁.rows
  nextId := h₂.nextId.trans h₁.nextId
  closed := h₂.closed ∘ h₁.closed

theorem Database.Rests.keeps (h : s.Rests s') : s.Keeps s' :=
  ⟨rows_of_table h.table, h.nextId, fun hclosed => h.saved.trans hclosed⟩

theorem Database.Gains.keeps (h : s.Gains s') : s.Keeps s' :=
  ⟨h.rows, h.nextId, fun _ => h.saved⟩

/-- An operation that changes no row of a database with no open
transaction. -/
def Keeping {α : Type} (act : Access Database α) : Prop :=
  ∀ s : Database, s.saved = none → s.Keeps (act s).2

/-- Two operations in a row change no row if neither does. -/
theorem Keeping.andThen {α β : Type} {first : Access Database α} {next : α → Access Database β}
    (hfirst : Keeping first) (hnext : ∀ a, Keeping (next a)) : Keeping (first.andThen next) := by
  intro s hclosed
  have hkeeps := hfirst s hclosed
  exact Access.andThen_state hkeeps fun a =>
    hkeeps.trans (hnext a _ (hkeeps.closed hclosed))

theorem runErrands_keeping (errands : List Errand) : Keeping (runErrands errands) := by
  intro s _
  rcases runErrands_cases errands s with ⟨s', hheard, _, hrun⟩ | ⟨_, s', hrests, _, _, hrun⟩ <;>
    rw [hrun]
  · exact hheard.rests.keeps
  · exact hrests.keeps

theorem require_keeping (wrong? : List Applied → Option MigrationError) :
    Keeping (require wrong?) := by
  intro s _
  unfold require
  split <;> exact (Database.Rests.refl s).keeps

theorem applyIfNew_keeping : Keeping applyIfNew := by
  intro s hclosed
  unfold applyIfNew
  split
  · exact (Database.Rests.refl s).keeps
  · have hcases := apply_cases hclosed
    generalize apply s = run at hcases
    cases hcases with
    | interrupted _ rests => exact rests.keeps
    | rejected _ rests => exact rests.keeps
    | untimed _ _ gains => exact gains.keeps
    | applied _ gains _ => exact gains.keeps

theorem check_keeping : Keeping check :=
  (runErrands_keeping _).andThen fun _ => (require_keeping _).andThen fun _ =>
    (runErrands_keeping _).andThen fun _ => require_keeping _

/-- Bringing the table up to date changes no row. -/
theorem migrate_keeping : Keeping migrate :=
  check_keeping.andThen fun _ => applyIfNew_keeping.andThen fun _ => runErrands_keeping _

/-- Bringing the table up to date leaves a sound table sound, whichever of
the statements fail. -/
theorem migrate_sound (h : s.Sound) : (migrate s).2.Sound := by
  have hkeeps := migrate_keeping s h.closed
  exact h.of_rows hkeeps.rows (Int.le_of_eq hkeeps.nextId.symm) (hkeeps.closed h.closed)

end Roster.Tables
