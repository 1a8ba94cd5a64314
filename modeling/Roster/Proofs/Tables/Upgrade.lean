import Mathlib.Order.Bounds.Basic
import Roster.Proofs.Tables.Migration

/-!
# `Roster.Proofs.Tables.Upgrade`: bringing a table up to date

Connecting brings the table up to date, or says what is wrong with the
record of migrations. `Upgrade` lists the ways in which that ends, each
with what must hold of the record for it: of several unfinished or unknown
migrations the one with the smallest version is told, because the record
is listed by version (`find?_listed`).

An orderly database has no version twice in its record, so a record with
nothing wrong is empty or has one entry (`migrations_of_known`), and every
orderly database falls under just one of the ways (`upgrade_iff`).
-/

set_option autoImplicit false

namespace Roster.Tables

namespace Database

/-- The versions of the recorded migrations of some kind. -/
def versions (s : Database) (p : Applied → Bool) : Set Int :=
  {v | ∃ m ∈ s.migrations, p m = true ∧ m.version = v}

/-- The versions of the migrations that were begun and not finished. -/
def unfinished (s : Database) : Set Int :=
  s.versions fun m => !m.finished

/-- The versions of the migrations that are not known here. -/
def unknown (s : Database) : Set Int :=
  s.versions fun m => m.version ≠ migrationVersion

/-- What a client finds when it connects: no transaction is open, no
version is recorded twice, and the record is listed by version, as the
client asks. -/
structure Orderly (s : Database) : Prop where
  closed : s.saved = none
  distinct : (s.migrations.map Applied.version).Nodup
  listed : s.listedMigrations.Pairwise fun m n => m.version ≤ n.version

end Database

/-- The ways in which connecting to a database ends: the answer, the table
and the record of migrations that it leaves. -/
inductive Upgrade (s : Database) :
    Except StoreError Unit → Option (List Row) → List Applied → Prop
  | dirty {v : Int} (least : IsLeast s.unfinished v) :
      Upgrade s (.error (.migration (.dirty v))) s.table s.migrations
  | unknown {v : Int} (finished : s.unfinished = ∅) (least : IsLeast s.unknown v) :
      Upgrade s (.error (.migration (.unknown v))) s.table s.migrations
  | modified (finished : s.unfinished = ∅) (known : s.unknown = ∅)
      (mem : ⟨migrationVersion, true, false⟩ ∈ s.migrations) :
      Upgrade s (.error (.migration (.modified migrationVersion))) s.table s.migrations
  | rejected {text : String} (new : s.migrations = []) (rejects : s.rejection? = some text) :
      Upgrade s (.error (.migration (.failed migrationVersion text))) s.table s.migrations
  | standing (finished : s.unfinished = ∅) (known : s.unknown = ∅)
      (mem : ⟨migrationVersion, true, true⟩ ∈ s.migrations) :
      Upgrade s (.ok ()) s.table [⟨migrationVersion, true, true⟩]
  | applied (new : s.migrations = []) (accepts : s.rejection? = none) :
      Upgrade s (.ok ()) (some s.rows) [⟨migrationVersion, true, true⟩]

namespace Database

variable {s : Database}

/-! ### The record of migrations -/

/-- The listed record has the entries that were recorded. -/
theorem mem_listed {m : Applied} : m ∈ s.listedMigrations ↔ m ∈ s.migrations := by
  unfold listedMigrations
  split
  · exact List.mem_mergeSort
  · exact Iff.rfl

/-- A database that lists its record by version does so whatever the order of
recording. -/
theorem pairwise_listed (h : s.listsByVersion = true) :
    s.listedMigrations.Pairwise fun m n => m.version ≤ n.version := by
  have hsorted : (s.migrations.mergeSort fun m n => m.version ≤ n.version).Pairwise
      fun m n => decide (m.version ≤ n.version) := by
    refine List.pairwise_mergeSort ?_ ?_ s.migrations
    · simpa using fun _ _ _ => Int.le_trans
    · simpa using fun _ _ => Int.le_total _ _
  unfold listedMigrations
  rw [if_pos h]
  exact hsorted.imp of_decide_eq_true

/-- The first of some kind that is listed has the smallest version of that
kind. -/
theorem find?_listed (h : s.Orderly) {p : Applied → Bool} {m : Applied}
    (hfind : s.listedMigrations.find? p = some m) : IsLeast (s.versions p) m.version := by
  obtain ⟨hm, before, after, hlisted, hbefore⟩ := List.find?_eq_some_iff_append.mp hfind
  have hsorted := h.listed
  rw [hlisted] at hsorted
  refine ⟨⟨m, mem_listed.mp ?_, hm, rfl⟩, ?_⟩
  · rw [hlisted]
    exact List.mem_append_right _ List.mem_cons_self
  · rintro _ ⟨n, hn, hpn, rfl⟩
    rw [← mem_listed, hlisted] at hn
    rcases List.mem_append.mp hn with hn | hn
    · -- What is listed before is of another kind.
      exact absurd hpn (by simpa using hbefore n hn)
    · rcases List.mem_cons.mp hn with rfl | hn
      · exact Int.le_refl _
      · exact (List.pairwise_cons.mp (List.pairwise_append.mp hsorted).2.1).1 n hn

/-- None of some kind is listed exactly if none is recorded. -/
theorem find?_listed_eq_none {p : Applied → Bool} :
    s.listedMigrations.find? p = none ↔ s.versions p = ∅ := by
  rw [List.find?_eq_none, Set.eq_empty_iff_forall_notMem]
  constructor
  · rintro h v ⟨m, hm, hp, -⟩
    exact h m (mem_listed.mpr hm) hp
  · intro h m hm hp
    exact h m.version ⟨m, mem_listed.mp hm, hp, rfl⟩

/-- The smallest version of some kind is that of the first of the kind that
is listed. -/
theorem exists_find?_listed (h : s.Orderly) {p : Applied → Bool} {v : Int}
    (hleast : IsLeast (s.versions p) v) :
    ∃ m, s.listedMigrations.find? p = some m ∧ m.version = v := by
  cases hfind : s.listedMigrations.find? p with
  | none => exact absurd hleast.1 (by simp [find?_listed_eq_none.mp hfind])
  | some m => exact ⟨m, rfl, (find?_listed h hfind).unique hleast⟩

/-- An empty record has no versions. -/
theorem versions_of_nil (h : s.migrations = []) (p : Applied → Bool) : s.versions p = ∅ := by
  simp [versions, h]

/-- With nothing unfinished and nothing unknown, each entry is finished
and has the version of the migration in hand. -/
theorem eq_of_known (hfinished : s.unfinished = ∅) (hknown : s.unknown = ∅) {m : Applied}
    (hm : m ∈ s.migrations) : m = ⟨migrationVersion, true, m.intact⟩ := by
  have hfin : m.finished = true := by
    refine Decidable.of_not_not fun h => ?_
    exact Set.eq_empty_iff_forall_notMem.mp hfinished m.version ⟨m, hm, by simpa using h, rfl⟩
  have hver : m.version = migrationVersion := by
    refine Decidable.of_not_not fun h => ?_
    exact Set.eq_empty_iff_forall_notMem.mp hknown m.version ⟨m, hm, by simpa using h, rfl⟩
  cases m
  simp_all

/-- With nothing unfinished and nothing unknown, the record is empty or has
one entry. -/
theorem migrations_of_known (h : s.Orderly) (hfinished : s.unfinished = ∅)
    (hknown : s.unknown = ∅) :
    s.migrations = [] ∨ ∃ intact, s.migrations = [⟨migrationVersion, true, intact⟩] := by
  have heq := fun m => eq_of_known (m := m) hfinished hknown
  have hdistinct := h.distinct
  generalize s.migrations = l at heq hdistinct
  match l with
  | [] => exact Or.inl rfl
  | [m] => exact Or.inr ⟨m.intact, by rw [← heq m List.mem_cons_self]⟩
  | m :: n :: _ =>
    -- Two entries would have the same version.
    have hm : m.version = migrationVersion := congrArg Applied.version (heq m (by simp))
    have hn : n.version = migrationVersion := congrArg Applied.version (heq n (by simp))
    simp [hm, hn] at hdistinct

/-- An entry of a record without unfinished and unknown ones is the only
one. -/
theorem migrations_of_mem (h : s.Orderly) (hfinished : s.unfinished = ∅)
    (hknown : s.unknown = ∅) {m : Applied} (hm : m ∈ s.migrations) : s.migrations = [m] := by
  rcases migrations_of_known h hfinished hknown with hnil | ⟨intact, hone⟩
  · simp [hnil] at hm
  · rw [hone] at hm ⊢
    rw [List.mem_singleton.mp hm]

end Database

variable {s s' : Database}

/-! ### One way for each record -/

/-- What bringing the table up to date comes to if no statement that only
goes with it is refused: the answer, the table and the record. -/
def Database.outcome (s : Database) :
    Except StoreError Unit × Option (List Row) × List Applied :=
  match unfinished? s.listedMigrations, mismatch? s.listedMigrations with
  | some e, _ | none, some e => (.error (.migration e), s.table, s.migrations)
  | none, none =>
    if isApplied s.migrations then (.ok (), s.table, s.migrations)
    else
      match s.rejection? with
      | some text => (.error (.migration (.failed migrationVersion text)), s.table, s.migrations)
      | none => (.ok (), some s.rows, s.migrations ++ [⟨migrationVersion, true, true⟩])

/-- With nothing unfinished, no migration is told as unfinished. -/
theorem unfinished?_eq_none (h : s.unfinished = ∅) : unfinished? s.listedMigrations = none := by
  rw [unfinished?, Database.find?_listed_eq_none.mpr h]
  rfl

/-- With nothing unknown, only an entry with other contents is wrong. -/
theorem mismatch?_of_known (h : s.unknown = ∅) :
    mismatch? s.listedMigrations =
      if s.migrations.any fun m => !m.intact then some (.modified migrationVersion) else none := by
  have hsame : (s.listedMigrations.any fun m => !m.intact) =
      s.migrations.any fun m => !m.intact := by
    rw [Bool.eq_iff_iff, List.any_eq_true, List.any_eq_true]
    simp only [Database.mem_listed]
  rw [mismatch?, Database.find?_listed_eq_none.mpr h, hsame]

/-- A record that is up to date has nothing wrong with it. -/
theorem nothing_wrong (h : s.migrations = [⟨migrationVersion, true, true⟩]) :
    unfinished? s.listedMigrations = none ∧ mismatch? s.listedMigrations = none ∧
      isApplied s.migrations = true := by
  have hfinished : s.unfinished = ∅ := by simp [Database.unfinished, Database.versions, h]
  have hknown : s.unknown = ∅ := by simp [Database.unknown, Database.versions, h]
  refine ⟨unfinished?_eq_none hfinished, ?_, by rw [h]; rfl⟩
  rw [mismatch?_of_known hknown, h]
  rfl

/-- An empty record has nothing wrong with it, and the migration is to be
applied. -/
theorem outcome_of_new (h : s.migrations = []) :
    s.outcome = match s.rejection? with
      | some text => (.error (.migration (.failed migrationVersion text)), s.table, s.migrations)
      | none => (.ok (), some s.rows, [⟨migrationVersion, true, true⟩]) := by
  have hmismatch : mismatch? s.listedMigrations = none := by
    rw [mismatch?_of_known (Database.versions_of_nil h _), h]
    rfl
  have happlied : isApplied [] = false := rfl
  simp only [Database.outcome, unfinished?_eq_none (Database.versions_of_nil h _), hmismatch, h,
    happlied, Bool.false_eq_true, if_false, List.nil_append]

/-- Each way tells what bringing the table up to date comes to. -/
theorem Upgrade.outcome_eq (h : s.Orderly) {result : Except StoreError Unit}
    {table : Option (List Row)} {migrations : List Applied}
    (hway : Upgrade s result table migrations) : s.outcome = (result, table, migrations) := by
  cases hway with
  | dirty least =>
    obtain ⟨m, hfind, rfl⟩ := Database.exists_find?_listed h least
    simp only [Database.outcome, unfinished?, hfind, Option.map_some]
  | unknown finished least =>
    obtain ⟨m, hfind, rfl⟩ := Database.exists_find?_listed h least
    simp only [Database.outcome, unfinished?_eq_none finished, mismatch?, hfind]
  | modified finished known mem =>
    have hany : (s.migrations.any fun m => !m.intact) = true :=
      List.any_eq_true.mpr ⟨_, mem, rfl⟩
    simp only [Database.outcome, unfinished?_eq_none finished, mismatch?_of_known known, hany,
      if_true]
  | rejected new rejects => rw [outcome_of_new new, rejects]
  | standing finished known mem =>
    have hone := Database.migrations_of_mem h finished known mem
    obtain ⟨hfinished, hmismatch, happlied⟩ := nothing_wrong hone
    simp only [Database.outcome, hfinished, hmismatch, happlied, if_true]
    rw [hone]
  | applied new accepts => rw [outcome_of_new new, accepts]

/-- Every orderly database falls under one of the ways. -/
theorem exists_upgrade (h : s.Orderly) :
    ∃ result table migrations, Upgrade s result table migrations := by
  -- The cases come in the order in which the problems are looked for.
  cases hdirty : s.listedMigrations.find? fun m => !m.finished with
  | some m => exact ⟨_, _, _, .dirty (Database.find?_listed h hdirty)⟩
  | none =>
    have hfinished : s.unfinished = ∅ := Database.find?_listed_eq_none.mp hdirty
    cases hunknown : s.listedMigrations.find? fun m => m.version ≠ migrationVersion with
    | some m => exact ⟨_, _, _, .unknown hfinished (Database.find?_listed h hunknown)⟩
    | none =>
      have hknown : s.unknown = ∅ := Database.find?_listed_eq_none.mp hunknown
      rcases Database.migrations_of_known h hfinished hknown with hnew | ⟨intact, hone⟩
      · cases hrejection : s.rejection? with
        | some text => exact ⟨_, _, _, .rejected hnew hrejection⟩
        | none => exact ⟨_, _, _, .applied hnew hrejection⟩
      · have hmem : ⟨migrationVersion, true, intact⟩ ∈ s.migrations := by simp [hone]
        cases intact with
        | true => exact ⟨_, _, _, .standing hfinished hknown hmem⟩
        | false => exact ⟨_, _, _, .modified hfinished hknown hmem⟩

/-- An orderly database falls under just one of the ways, the one that it
comes to. -/
theorem upgrade_iff (h : s.Orderly) (result : Except StoreError Unit)
    (table : Option (List Row)) (migrations : List Applied) :
    Upgrade s result table migrations ↔ s.outcome = (result, table, migrations) := by
  constructor
  · exact fun hway => hway.outcome_eq h
  · -- The database falls under some way, and that one tells the outcome.
    intro houtcome
    obtain ⟨result', table', migrations', hway⟩ := exists_upgrade h
    obtain ⟨rfl, rfl, rfl⟩ : result' = result ∧ table' = table ∧ migrations' = migrations := by
      simpa using (hway.outcome_eq h).symm.trans houtcome
    exact hway

/-- The table that is there keeps its rows, however connecting ends. -/
theorem Upgrade.table_of_some {result : Except StoreError Unit} {table : Option (List Row)}
    {migrations : List Applied} (hway : Upgrade s result table migrations) {rows : List Row}
    (h : s.table = some rows) : table = some rows := by
  cases hway with
  | dirty | unknown | modified | rejected | standing => exact h
  | applied => rw [Database.rows_eq h]

/-- A failure leaves the record as it was. -/
theorem Upgrade.migrations_of_error {e : StoreError} {table : Option (List Row)}
    {migrations : List Applied} (hway : Upgrade s (.error e) table migrations) :
    migrations = s.migrations := by
  cases hway <;> rfl

/-- A success leaves the finished migration alone in the record, and the
table is there unless the migration was recorded before. -/
theorem Upgrade.of_ok {table : Option (List Row)} {migrations : List Applied}
    (hway : Upgrade s (.ok ()) table migrations) :
    migrations = [⟨migrationVersion, true, true⟩] ∧
      ((∀ m ∈ s.migrations, m.version ≠ migrationVersion) → table.isSome) := by
  cases hway with
  | standing _ _ mem => exact ⟨rfl, fun hnew => absurd rfl (hnew _ mem)⟩
  | applied => exact ⟨rfl, fun _ => rfl⟩

end Roster.Tables
