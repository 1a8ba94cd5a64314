import Roster.Proofs.Tables.Upgrade

/-!
# `Roster.Proofs.Tables.Interruption`: statements of the migrations' own

`Upgrade` is what connecting comes to while the statements that only go
with the migrations are carried out. One of them that is refused interrupts
it (`migrate_cases`). Then everything stored is as it was, or, after the
commit, as a success leaves it: there is no half-recorded migration.

Once the record is up to date there is nothing to do
(`migrate_of_upToDate`).
-/

set_option autoImplicit false

namespace Roster.Tables

variable {s s' : Database}

/-- The errands that are run in any case. -/
def usualErrands : List Errand :=
  [.name, .lock, .ensure, .unfinished, .list, .unlock]

namespace Database

theorem Heard.listed (h : s.Heard s') : s'.listedMigrations = s.listedMigrations := by
  obtain ⟨statements, rfl⟩ := h
  rfl

theorem Heard.outcome (h : s.Heard s') : s'.outcome = s.outcome := by
  obtain ⟨statements, rfl⟩ := h
  rfl

/-- The same faults wait for the same statements. -/
theorem spared_congr (h : s'.faults = s.faults) (kind : StatementKind) :
    s'.Spared kind ↔ s.Spared kind := by
  rw [Spared, Spared, h]

/-- The same faults interrupt in the same words. -/
theorem interrupts_congr (h : s'.faults = s.faults) (text : String) :
    s'.Interrupts text ↔ s.Interrupts text := by
  rw [Interrupts, Interrupts, h]

end Database

/-- How bringing the table up to date ends: its answer and the database that
it leaves. -/
inductive Migrated (s : Database) : Except StoreError Unit × Database → Prop
  | refused {e : MigrationError} {s' : Database}
      (told : s.outcome = (.error (.migration e), s'.table, s'.migrations)) :
      Migrated s (.error (.migration e), s')
  /-- No fault waits for what is done in any case. -/
  | done {s' : Database} (told : s.outcome = (.ok (), s'.table, s'.migrations))
      (spared : ∀ errand ∈ usualErrands, s'.Spared (.errand errand)) :
      Migrated s (.ok (), s')
  /-- A statement was refused before anything stored had changed. -/
  | interrupted {text : String} {s' : Database} (interrupts : s.Interrupts text)
      (table : s'.table = s.table) (migrations : s'.migrations = s.migrations) :
      Migrated s (.error (.migration (.interrupted text)), s')
  /-- A statement was refused after everything had been stored. -/
  | overtaken {text : String} {s' : Database} (interrupts : s.Interrupts text)
      (told : s.outcome = (.ok (), s'.table, s'.migrations)) :
      Migrated s (.error (.migration (.interrupted text)), s')

/-- Applying the migration unless it was before ends as the outcome says, or
it is interrupted. -/
theorem applyIfNew_cases (hclosed : s.saved = none)
    (hfinished : unfinished? s.listedMigrations = none)
    (hmismatch : mismatch? s.listedMigrations = none) :
    (∃ s', s'.faults = s.faults ∧ s.outcome = (.ok (), s'.table, s'.migrations) ∧
      applyIfNew s = (.ok (), s')) ∨
    ∃ e s', Migrated s (.error e, s') ∧ applyIfNew s = (.error e, s') := by
  unfold applyIfNew
  cases happlied : isApplied s.migrations with
  | true => exact .inl ⟨s, rfl, by simp [Database.outcome, hfinished, hmismatch, happlied], rfl⟩
  | false =>
    have hcases := apply_cases hclosed
    generalize hrun : apply s = run at hcases
    simp only [Bool.false_eq_true, if_false]
    cases hcases with
    | interrupted interrupts rests =>
      exact .inr ⟨_, _, .interrupted interrupts rests.table rests.migrations, rfl⟩
    -- The other three are what the outcome says of a record with nothing
    -- wrong in which the migration is missing.
    | rejected rejects rests =>
      refine .inr ⟨_, _, .refused ?_, rfl⟩
      simp [Database.outcome, hfinished, hmismatch, happlied, rejects, rests.table,
        rests.migrations]
    | untimed accepts interrupts gains =>
      refine .inr ⟨_, _, .overtaken interrupts ?_, rfl⟩
      simp [Database.outcome, hfinished, hmismatch, happlied, accepts, gains.table,
        gains.migrations]
    | applied accepts gains faults =>
      refine .inl ⟨_, faults, ?_, rfl⟩
      simp [Database.outcome, hfinished, hmismatch, happlied, accepts, gains.table,
        gains.migrations]

/-- What came in before does not count. -/
theorem Migrated.of_heard {run : Except StoreError Unit × Database} (heard : s.Heard s')
    (h : Migrated s' run) : Migrated s run := by
  obtain ⟨statements, rfl⟩ := heard
  cases h with
  | refused told => exact .refused told
  | done told spared => exact .done told spared
  | interrupted interrupts table migrations => exact .interrupted interrupts table migrations
  | overtaken interrupts told => exact .overtaken interrupts told

/-- A record with something wrong is told of. -/
theorem require_of_some {wrong? : List Applied → Option MigrationError} {e : MigrationError}
    (h : wrong? s.listedMigrations = some e) : require wrong? s = (.error (.migration e), s) := by
  simp only [require, h]

/-- A record with nothing wrong lets the work go on. -/
theorem require_of_none {wrong? : List Applied → Option MigrationError}
    (h : wrong? s.listedMigrations = none) : require wrong? s = (.ok (), s) := by
  simp only [require, h]

/-- How checking the record ends: its answer and the database that it
leaves. -/
inductive Checked (s : Database) : Except StoreError Unit × Database → Prop
  | wrong {e : MigrationError} {s' : Database} (heard : s.Heard s')
      (told : s.outcome = (.error (.migration e), s.table, s.migrations)) :
      Checked s (.error (.migration e), s')
  | interrupted {text : String} {s' : Database} (interrupts : s.Interrupts text)
      (rests : s.Rests s') : Checked s (.error (.migration (.interrupted text)), s')
  | fine {s' : Database} (heard : s.Heard s')
      (finished : unfinished? s.listedMigrations = none)
      (matched : mismatch? s.listedMigrations = none)
      (spared : ∀ errand ∈ [Errand.name, .lock, .ensure, .unfinished, .list],
        s.Spared (.errand errand)) :
      Checked s (.ok (), s')

/-- Checking the record ends in one of these ways. -/
theorem check_cases (s : Database) : Checked s (check s) := by
  -- Errands leave the record as it is, so what they ask for is that of `s`.
  rcases runErrands_cases [.name, .lock, .ensure, .unfinished] s with
    ⟨s₁, hheard₁, hspared₁, hrun₁⟩ | ⟨text, s', hrests, _, hinterrupts, hrun⟩
  case inr =>
    rw [show check s = (.error (.migration (.interrupted text)), s') by
      simp only [check, Access.andThen, hrun]]
    exact .interrupted hinterrupts hrests
  cases hdirty : unfinished? s.listedMigrations with
  | some e =>
    have hrequire : require unfinished? s₁ = (.error (.migration e), s₁) :=
      require_of_some (hheard₁.listed ▸ hdirty)
    rw [show check s = (.error (.migration e), s₁) by
      simp only [check, Access.andThen, hrun₁, hrequire]]
    exact .wrong hheard₁ (by simp only [Database.outcome, hdirty])
  | none =>
  have hrequire₁ : require unfinished? s₁ = (.ok (), s₁) :=
    require_of_none (hheard₁.listed ▸ hdirty)
  rcases runErrands_cases [.list] s₁ with
    ⟨s₂, hheard₂, hspared₂, hrun₂⟩ | ⟨text, s', hrests, _, hinterrupts, hrun⟩
  case inr =>
    rw [show check s = (.error (.migration (.interrupted text)), s') by
      simp only [check, Access.andThen, hrun₁, hrequire₁, hrun]]
    exact .interrupted (hinterrupts.of_rests hheard₁.rests) (hheard₁.rests.trans hrests)
  have hheard := hheard₁.trans hheard₂
  cases hmismatch : mismatch? s.listedMigrations with
  | some e =>
    have hrequire₂ : require mismatch? s₂ = (.error (.migration e), s₂) :=
      require_of_some (hheard.listed ▸ hmismatch)
    rw [show check s = (.error (.migration e), s₂) by
      simp only [check, Access.andThen, hrun₁, hrequire₁, hrun₂, hrequire₂]]
    exact .wrong hheard (by simp only [Database.outcome, hdirty, hmismatch])
  | none =>
    have hrequire₂ : require mismatch? s₂ = (.ok (), s₂) :=
      require_of_none (hheard.listed ▸ hmismatch)
    rw [show check s = (.ok (), s₂) by
      simp only [check, Access.andThen, hrun₁, hrequire₁, hrun₂, hrequire₂]]
    refine .fine hheard hdirty hmismatch fun errand hmem => ?_
    rcases List.mem_append.mp (show errand ∈ [.name, .lock, .ensure, .unfinished] ++ [.list] from
      hmem) with hmem | hmem
    · exact hspared₁ errand hmem
    · exact (Database.spared_congr hheard₁.faults _).mp (hspared₂ errand hmem)

/-- Bringing the table up to date ends as the outcome says, or it is
interrupted. -/
theorem migrate_cases (hclosed : s.saved = none) : Migrated s (migrate s) := by
  have hcheck := check_cases s
  generalize hchecked : check s = run at hcheck
  cases hcheck with
  | wrong heard told =>
    rw [show migrate s = _ from Access.andThen_eq_error.mpr (.inl hchecked)]
    exact .refused (by rw [told, heard.rests.table, heard.rests.migrations])
  | interrupted interrupts rests =>
    rw [show migrate s = _ from Access.andThen_eq_error.mpr (.inl hchecked)]
    exact .interrupted interrupts rests.table rests.migrations
  | @fine s₁ heard finished matched spared =>
    have hclosed₁ : s₁.saved = none := heard.rests.saved.trans hclosed
    rcases applyIfNew_cases hclosed₁ (heard.listed ▸ finished) (heard.listed ▸ matched) with
      ⟨s₂, hfaults, htold, happly⟩ | ⟨e, s', hends, happly⟩
    case inr =>
      rw [show migrate s = _ from Access.andThen_eq_error.mpr
        (.inr ⟨(), _, hchecked, Access.andThen_eq_error.mpr (.inl happly)⟩)]
      exact hends.of_heard heard
    -- Only errands are left, so what is stored is that of the outcome now.
    have hfaults : s₂.faults = s.faults := hfaults.trans heard.faults
    have htold : s.outcome = (.ok (), s₂.table, s₂.migrations) := heard.outcome ▸ htold
    rcases runErrands_cases [.name, .unlock] s₂ with
      ⟨s₃, hheard, hspared, hlast⟩ | ⟨text, s₃, hrests, _, hinterrupts, hlast⟩
    · rw [show migrate s = _ from Access.andThen_eq_ok.mpr
        ⟨(), _, hchecked, Access.andThen_eq_ok.mpr ⟨(), _, happly, hlast⟩⟩]
      refine .done (by rw [htold, hheard.rests.table, hheard.rests.migrations])
        fun errand hmem => (Database.spared_congr (hheard.faults.trans hfaults) _).mpr ?_
      rcases List.mem_append.mp (show errand ∈ [.name, .lock, .ensure, .unfinished, .list] ++
        [.unlock] from hmem) with hmem | hmem
      · exact spared errand hmem
      · exact (Database.spared_congr hfaults _).mp (hspared errand (.tail _ hmem))
    · rw [show migrate s = _ from Access.andThen_eq_error.mpr
        (.inr ⟨(), _, hchecked, Access.andThen_eq_error.mpr (.inr ⟨(), _, happly, hlast⟩)⟩)]
      exact .overtaken ((Database.interrupts_congr hfaults text).mp hinterrupts)
        (by rw [htold, hrests.table, hrests.migrations])

/-- Once the record is up to date and no fault waits for an errand, bringing
the table up to date has nothing to do. -/
theorem migrate_of_upToDate (hrecord : s.migrations = [⟨migrationVersion, true, true⟩])
    (hspared : ∀ errand ∈ usualErrands, s.Spared (.errand errand)) :
    ∃ s', s.Heard s' ∧ migrate s = (.ok (), s') := by
  have hsome (errands : List Errand) (h : errands ⊆ usualErrands) {s₁ : Database}
      (hheard : s.Heard s₁) : ∃ s₂, s₁.Heard s₂ ∧ runErrands errands s₁ = (.ok (), s₂) :=
    runErrands_of_spared fun errand hmem =>
      (Database.spared_congr hheard.faults _).mpr (hspared errand (h hmem))
  obtain ⟨hfinished, hmatched, happlied⟩ := nothing_wrong hrecord
  obtain ⟨s₁, hheard₁, hrun₁⟩ := hsome [.name, .lock, .ensure, .unfinished] (by decide) (.refl s)
  obtain ⟨s₂, hheard₂, hrun₂⟩ := hsome [.list] (by decide) hheard₁
  have hheard := hheard₁.trans hheard₂
  obtain ⟨s₃, hheard₃, hrun₃⟩ := hsome [.name, .unlock] (by decide) hheard
  refine ⟨s₃, hheard.trans hheard₃, ?_⟩
  have hrequire₁ : require unfinished? s₁ = (.ok (), s₁) :=
    require_of_none (hheard₁.listed ▸ hfinished)
  have hrequire₂ : require mismatch? s₂ = (.ok (), s₂) :=
    require_of_none (hheard.listed ▸ hmatched)
  have happly : applyIfNew s₂ = (.ok (), s₂) := by
    rw [applyIfNew, if_pos (hheard.rests.migrations ▸ happlied)]
  simp only [migrate, check, Access.andThen, hrun₁, hrequire₁, hrun₂, hrequire₂, happly, hrun₃]

end Roster.Tables
