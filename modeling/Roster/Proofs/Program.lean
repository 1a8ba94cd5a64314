import Roster.Program
import Roster.Proofs.Seeding
import Roster.Proofs.Tables.Connecting

/-!
# `Roster.Proofs.Program`: what a run leaves in place

Opening a store, seeding it and verifying it take nothing away that
others hold on to: the stores inside the process stay, and sound databases
stay sound (`World.Grows`). `run_grows` puts this together for a whole
run of the program, whichever stage ends it.
-/

set_option autoImplicit false

namespace Roster

namespace Outcome

variable {σ ε ε' α β : Type}

/-- A failure seen as another leaves the same state. -/
@[simp]
theorem mapError_state (f : ε → ε') (o : Outcome σ ε α) : (o.mapError f).state = o.state := rfl

/-- Telling something first leaves the same state. -/
@[simp]
theorem after_state (events : List Event) (o : Outcome σ ε α) :
    (o.after events).state = o.state := rfl

/-- Telling something first gives the same result. -/
@[simp]
theorem after_result (events : List Event) (o : Outcome σ ε α) :
    (o.after events).result = o.result := rfl

/-- Seeing failures as others gives the same successes. -/
theorem mapError_eq_ok {f : ε → ε'} {o : Outcome σ ε α} {a : α} :
    (o.mapError f).result = .ok a ↔ o.result = .ok a := by
  unfold mapError
  cases o.result with
  | error e => exact ⟨nofun, nofun⟩
  | ok _ => exact ⟨fun h => congrArg _ (Except.ok.inj h), fun h => congrArg _ (Except.ok.inj h)⟩

/-- What holds after each of two stages holds after both. -/
theorem andThen_state {P : σ → Prop} {first : Outcome σ ε α} {next : α → σ → Outcome σ ε β}
    (hfirst : P first.state)
    (hnext : ∀ a, first.result = .ok a → P (next a first.state).state) :
    P (first.andThen next).state := by
  unfold andThen
  cases hresult : first.result with
  | error e => exact hfirst
  | ok a => exact hnext a hresult

end Outcome

namespace World

variable {ε α β : Type} {w : World}

/-- Connecting to a table server takes nothing away. -/
theorem connectTables_grows (url : String) (w : World) :
    w.Grows ((Tables.connect w.machine.user url).within World.tables World.setTables w).2 := by
  rcases Tables.connect_eq w.machine.user url w.tables with ⟨e, hrun⟩ | ⟨name, hrun⟩
  · rw [show (Tables.connect w.machine.user url).within World.tables World.setTables w = _ from
      Access.within_eq.mpr ⟨_, hrun, rfl⟩]
    exact .refl w
  · rw [show (Tables.connect w.machine.user url).within World.tables World.setTables w = _ from
      Access.within_eq.mpr ⟨_, hrun, rfl⟩]
    exact grows_setDatabase Tables.migrate_sound

/-- Opening a store takes nothing away. -/
theorem openKind_grows (kind : Option StoreKind) (url : String) (w : World) :
    w.Grows (openKind kind url w).state := by
  unfold openKind
  split
  · unfold openDocuments
    split <;> exact .refl w
  · have hgrows := connectTables_grows url w
    unfold openTable
    cases hrun : (Tables.connect w.machine.user url).within World.tables World.setTables w with
    | mk result w' =>
      rw [hrun] at hgrows
      cases result <;> exact hgrows
  · refine ⟨?_, Nat.le_refl _, fun _ => id⟩
    show w.memories.length ≤ (w.memories ++ [Memory.ofRecords []]).length
    rw [List.length_append]
    exact Nat.le_add_right ..
  · exact .refl w

/-- A place that was opened is in the world. -/
theorem openKind_inWorld (kind : Option StoreKind) {url : String} {place : Place}
    (hok : (openKind kind url w).result = .ok place) :
    place.InWorld (openKind kind url w).state := by
  unfold openKind at hok ⊢
  split at hok
  · unfold openDocuments at hok
    split at hok <;> cases hok
    trivial
  · unfold openTable at hok
    cases hrun : (Tables.connect w.machine.user url).within World.tables World.setTables w with
    | mk result w' =>
      rw [hrun] at hok
      cases result <;> cases hok
      trivial
  · cases hok
    show w.memories.length < (w.memories ++ [Memory.ofRecords []]).length
    rw [List.length_append]
    exact Nat.lt_succ_self _
  · cases hok

/-- Opening a store by its URL takes nothing away. -/
theorem connect_grows (url : String) (w : World) : w.Grows (w.connect url).state := by
  rw [connect, Outcome.after_state]
  exact openKind_grows (StoreKind.ofScheme? (scheme url)) url w

/-- A place that was opened by its URL is in the world. -/
theorem connect_inWorld {url : String} {place : Place}
    (hok : (w.connect url).result = .ok place) : place.InWorld (w.connect url).state := by
  rw [connect, Outcome.after_result] at hok
  rw [connect, Outcome.after_state]
  exact openKind_inWorld (StoreKind.ofScheme? (scheme url)) hok

/-- Work in two stages takes nothing away if neither stage does. -/
theorem Grows.andThen {first : Outcome World ε α} {next : α → World → Outcome World ε β}
    (hfirst : w.Grows first.state) (hnext : ∀ a (w' : World), w'.Grows (next a w').state) :
    w.Grows (first.andThen next).state :=
  Outcome.andThen_state (P := w.Grows) hfirst fun a _ => hfirst.trans (hnext a first.state)

end World

namespace Seeder

/-- Seeding takes nothing away. -/
theorem seed_grows (p : Place) (w : World) : w.Grows (seed p.store w).state := by
  rw [seed_state]
  exact p.perform_grows (.replace fixtures) w

/-- Verifying takes nothing away. -/
theorem verify_grows (p : Place) (w : World) : w.Grows (verify p.store w).state := by
  rw [verify_state]
  exact p.perform_grows .all w

end Seeder

namespace Program

/-- Seeding and verifying take nothing away. -/
theorem seedAndVerify_grows (p : Place) (w : World) :
    w.Grows (seedAndVerify p.store w).state := by
  unfold seedAndVerify
  refine World.Grows.andThen ?_ fun _ w' => World.Grows.andThen ?_ fun found w'' => ?_
  · rw [Outcome.mapError_state]
    exact Seeder.seed_grows p w
  · rw [Outcome.mapError_state]
    exact Seeder.verify_grows p w'
  · rw [Outcome.tell]
    exact .refl w''

/-- A run takes nothing away. -/
theorem run_grows (config : Config) (w : World) : w.Grows (run config w).state := by
  unfold run
  refine World.Grows.andThen ?_ fun place w' => ?_
  · rw [Outcome.mapError_state]
    exact w.connect_grows config.databaseUrl
  · rw [Outcome.after_state]
    exact seedAndVerify_grows place w'

/-- A run leaves the same world however it is seen from outside. -/
theorem transcript_world (environment : Environment) (w : World) :
    (transcript environment w).2 =
      (run (Config.ofEnvironment environment.databaseUrl) w).state := by
  unfold transcript
  simp only
  cases (run (Config.ofEnvironment environment.databaseUrl) w).result <;> rfl

end Program

end Roster
