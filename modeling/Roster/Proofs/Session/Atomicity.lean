import Roster.Proofs.Session.Reachable

/-!
# `Roster.Proofs.Session.Atomicity`: a failure changes nothing

In memory and in a table a replace is one step, and so is every other
operation. `atomic_never_half_written` draws the consequence for whole
sessions. A failure on any name of such a place, whichever statement it
struck, leaves what is kept as it was and no transaction open, so that
a new connection would find the same table. After a run with any
failures, with the store in memory taken out of service and put back,
what is kept is what the operations that succeeded make of a plain list
(`succeeded`).

The invariant is `Session.Sound`: it gives that the store is there and
that no transaction was open before. `contents_of_performed` is the
step, one case for each thing that can be done on a handle.
-/

set_option autoImplicit false

namespace Roster

open Store (Operation)

/-- The world as a new connection to a database finds it: a transaction
that was open is undone. -/
def World.reconnected (name : String) (w : World) : World :=
  match (w.database name).saved with
  | none => w
  | some (table, migrations) =>
    setDatabase name w { w.database name with table, migrations, saved := none }

/-- If no transaction is open, a new connection finds the same world. -/
theorem World.reconnected_of_closed {name : String} {w : World}
    (h : (w.database name).saved = none) : w.reconnected name = w := by
  unfold reconnected
  rw [h]

namespace Session

variable {s : Session} {p : Place} {handle : Handle} {name : String}

/-- The answers at an atomic place in a sound session tell what was done
there. -/
theorem Sound.ready (h : s.Sound) (hatomic : p.IsAtomic) (hin : p.InWorld s.world) :
    p.Ready s.world := by
  cases p with
  | memory number => exact hin
  | table database size => exact h.tables database
  | scripted number collection => exact hatomic.elim
  | documents client => exact hatomic.elim

/-- A step succeeds if the operation of its store does. -/
theorem ofAccess_isOk {α : Type} (s : Session) (value : α → Value) (act : Access World α) :
    (s.ofAccess value act).result.isOk = (act s.world).1.isOk := by
  unfold ofAccess ofWorld
  cases (act s.world).1 <;> rfl

/-- A step succeeds if the work of its seeder does. -/
theorem ofWorld_isOk {ε α : Type} (s : Session) (wrap : ε → StepError) (value : α → Value)
    (outcome : Outcome World ε α) :
    (s.ofWorld wrap value outcome).result.isOk = outcome.result.isOk := by
  unfold ofWorld
  cases outcome.result <;> rfl

/-- What is kept at an atomic place after something was done on a handle:
what the operation makes of a plain list if it succeeds, and otherwise
what was there. -/
theorem contents_of_performed {action : Action} {reply : Reply}
    (hperformed : Performed s handle action reply) (hatomic : handle.place.IsAtomic)
    (hready : handle.place.Ready s.world) :
    handle.place.contents reply.state.world =
      handle.place.leaves (if reply.result.isOk then action.operation?.toList else [])
        (handle.place.contents s.world) := by
  cases hperformed with
  | store operation =>
    rw [ofAccess_isOk]
    exact Place.contents_perform hatomic hready operation
  | seed =>
    -- Seeding succeeds exactly if its replace does.
    have hreplace := Place.contents_perform hatomic hready (.replace fixtures)
    rw [Store.perform, Access.map_isOk, ← Seeder.seed_isOk] at hreplace
    show handle.place.contents (Seeder.seed handle.place.store s.world).state = _
    rw [ofWorld_isOk, Seeder.seed_state]
    exact hreplace
  | verify =>
    -- Listing changes nothing, so it does not matter what was found.
    show handle.place.contents (Seeder.verify handle.place.store s.world).state = _
    rw [Seeder.verify_state]
    have hall := Place.contents_perform hatomic hready .all
    have hsame : handle.place.contents (handle.place.store.all s.world).2 =
        handle.place.contents s.world := by
      refine Eq.trans hall ?_
      split <;> rfl
    rw [hsame]
    split <;> rfl
  | switched number unavailable hplace =>
    obtain ⟨place, form, watched⟩ := handle
    cases hplace
    show ((World.setMemory number s.world { s.world.memory number with unavailable }).memory
      number).records = (s.world.memory number).records
    rw [World.memory_setMemory hready]
  | scripted number collection failure hplace =>
    rw [hplace] at hatomic
    exact hatomic.elim
  | told action value hnone =>
    rw [hnone]
    rfl
  | refused action => rfl

/-! ### Runs -/

/-- A step of a run on a place: anything that is done through a name for
it, a new name, or a fault that is to strike a server. -/
inductive Works (p : Place) (s : Session) : Step → Prop where
  | act (name : String) (action : Action) (handle : Handle)
      (hname : s.handle? name = some handle) (hplace : handle.place = p) :
      Works p s (.act name action)
  | clone (source name : String) : Works p s (.clone source name)
  | seeder (source name : String) : Works p s (.seeder source name)
  | failCommand (fault : Documents.Fault) : Works p s (.failCommand fault)
  | failStatement (database : String) (fault : Tables.Fault) :
      Works p s (.failStatement database fault)

/-- The operations among some steps that succeed. -/
def succeeded (s : Session) : List Step → List Operation
  | [] => []
  | step :: rest =>
    (if (s.step step).1.result.isOk then step.operation?.toList else []) ++
      (s.step step).2.succeeded rest

/-- A step on a name leaves at an atomic place what its operation makes of
a plain list, if it succeeds, and otherwise what was there. -/
theorem contents_act (h : s.Sound) (hatomic : handle.place.IsAtomic)
    (hname : s.handle? name = some handle) (action : Action) :
    handle.place.contents (s.step (.act name action)).2.world =
      handle.place.leaves
        (if (s.step (.act name action)).1.result.isOk then action.operation?.toList else [])
        (handle.place.contents s.world) := by
  have hcleared := clearReceived_sound h
  obtain ⟨hresult, hstate⟩ := step_act action hname
  rw [hresult, hstate, ← contents_clearReceived _ s]
  exact contents_of_performed (s.clearReceived.perform_cases handle action) hatomic
    (hcleared.ready hatomic (hcleared.place hname))

/-- A step that is no operation and changes nothing that is kept. -/
theorem contents_other {step : Step} (hnone : step.operation? = none)
    (hsame : p.contents (s.clearReceived.execute step).state.world =
      p.contents s.clearReceived.world) :
    p.contents (s.step step).2.world =
      p.leaves (if (s.step step).1.result.isOk then step.operation?.toList else [])
        (p.contents s.world) := by
  show p.contents (s.clearReceived.execute step).state.world = _
  rw [hsame, contents_clearReceived, hnone]
  split <;> rfl

/-- A fault that is to strike statements in a database changes nothing that
is kept. -/
theorem failStatement_contents (s : Session) (p : Place) (database : String)
    (fault : Tables.Fault) :
    p.contents (s.execute (.failStatement database fault)).state.world = p.contents s.world := by
  cases p with
  | table other size =>
    show ((World.setDatabase database s.world
      ((s.world.database database).enqueue fault)).database other).kept = _
    by_cases hother : other = database
    · subst hother
      rw [World.database_setDatabase]
      rfl
    · rw [World.database_setDatabase_ne hother]
      rfl
  | memory _ => rfl
  | scripted _ _ => rfl
  | documents _ => rfl

/-- A step of a run leaves at an atomic place what its operation makes of
a plain list, if it succeeds, and otherwise what was there. -/
theorem contents_step {step : Step} (h : s.Sound) (hatomic : p.IsAtomic)
    (hworks : Works p s step) :
    p.contents (s.step step).2.world =
      p.leaves (if (s.step step).1.result.isOk then step.operation?.toList else [])
        (p.contents s.world) := by
  cases hworks with
  | act name action handle hname hplace =>
    subst hplace
    exact contents_act h hatomic hname action
  | clone source name =>
    exact contents_other rfl (congrArg p.contents (clone_world _ source name))
  | seeder source name =>
    exact contents_other rfl (congrArg p.contents (makeSeeder_world _ source name))
  | failCommand fault =>
    refine contents_other rfl ?_
    cases p <;> rfl
  | failStatement database fault =>
    exact contents_other rfl (failStatement_contents _ p database fault)

/-- A run leaves at an atomic place what the operations that succeed make
of a plain list. -/
theorem contents_run (steps : List Step) (h : s.Sound) (hatomic : p.IsAtomic)
    (hrun : s.Run (Works p) steps) :
    p.contents (s.after steps).world =
      p.leaves (s.succeeded steps) (p.contents s.world) := by
  induction steps generalizing s with
  | nil => rfl
  | cons step rest ih =>
    obtain ⟨hworks, hrest⟩ := hrun
    -- The rest of the run starts from what this step leaves.
    have hafter := ih (step_sound h step) hrest
    rw [contents_step h hatomic hworks] at hafter
    rw [succeeded, Place.leaves, List.foldl_append]
    exact hafter

/-- In memory and in a table nothing is ever half written. A failure
leaves what is kept as it was and no transaction open, so the next
operation does what it does on a new connection; and a run leaves what
the operations that succeed in it make of a plain list. -/
theorem atomic_never_half_written (s : Session) (hs : s.Reachable) (p : Place)
    (hatomic : p.IsAtomic) :
    (∀ name handle action e, s.handle? name = some handle → handle.place = p →
      (s.step (.act name action)).1.result = .error e →
        p.contents (s.step (.act name action)).2.world = p.contents s.world ∧
        ∀ database, ((s.step (.act name action)).2.world.database database).saved = none ∧
          ∀ operation,
            p.store.perform operation
                ((s.step (.act name action)).2.world.reconnected database) =
              p.store.perform operation (s.step (.act name action)).2.world) ∧
    ∀ steps, s.Run (Works p) steps →
      p.contents (s.after steps).world =
        p.leaves (s.succeeded steps) (p.contents s.world) := by
  have hsound := reachable_sound hs
  refine ⟨?_, fun steps hrun => contents_run steps hsound hatomic hrun⟩
  rintro name handle action e hname rfl herror
  refine ⟨?_, fun database => ?_⟩
  · have hstep := contents_act hsound hatomic hname action
    rw [herror] at hstep
    exact hstep
  · have hclosed := ((step_sound hsound (.act name action)).tables database).closed
    exact ⟨hclosed, fun operation => by rw [World.reconnected_of_closed hclosed]⟩

/-- A world in which nothing was done with a table server. -/
def idleTables : World where
  memories := []
  scripted := []
  documents := .empty "localhost:27017" false
  tables := ⟨"localhost:5432", true, [("test", .empty false)]⟩

/-- No database of the table server was used. -/
theorem fresh_idleTables : Fresh idleTables := by
  refine ⟨rfl, rfl, fun name => ?_⟩
  show ∃ listsByVersion, idleTables.tables.database name = _
  unfold Tables.Server.database Tables.Server.database?
  rw [show idleTables.tables.databases = [("test", .empty false)] from rfl, List.lookup_cons]
  cases name == "test" with
  | true => exact ⟨false, rfl⟩
  | false => exact ⟨true, rfl⟩

/-- A session with one row in the table, in which the next commit
fails. -/
def failingCommit : Session :=
  (start idleTables).after
    [.putRows "test" [⟨1, some "Ada", some "Byron"⟩], .table "store" "test",
     .failStatement "test" ⟨.commit, "disk full"⟩]

/-- A replace whose commit fails keeps the row, and an insert then comes
after it. -/
theorem failingCommit_never_half_written :
    (failingCommit.step (.act "store" (.store (.replace fixtures)))).1.result =
      .error (.store (.table (.statement "disk full"))) ∧
    (Place.table "test" plainPoolSize).contents
        (failingCommit.step (.act "store" (.store (.replace fixtures)))).2.world =
      (Place.table "test" plainPoolSize).contents failingCommit.world ∧
    (Place.table "test" plainPoolSize).contents
        (failingCommit.after
          [.act "store" (.store (.replace fixtures)),
           .act "store" (.store (.insert [⟨"Grace", "Hopper"⟩]))]).world =
      (Place.table "test" plainPoolSize).leaves [.insert [⟨"Grace", "Hopper"⟩]]
        ((Place.table "test" plainPoolSize).contents failingCommit.world) := by
  have hreachable : failingCommit.Reachable :=
    ⟨idleTables, _, fresh_idleTables, rfl⟩
  obtain ⟨hfailed, hrun⟩ := atomic_never_half_written failingCommit hreachable
    (.table "test" plainPoolSize) trivial
  refine ⟨rfl, ?_, ?_⟩
  · exact (hfailed "store" ⟨.table "test" plainPoolSize, .store, false⟩ (.store (.replace fixtures))
      _ rfl rfl rfl).1
  · have hworks : failingCommit.Run (Works (.table "test" plainPoolSize))
        [.act "store" (.store (.replace fixtures)),
         .act "store" (.store (.insert [⟨"Grace", "Hopper"⟩]))] :=
      ⟨.act _ _ ⟨.table "test" plainPoolSize, .store, false⟩ rfl rfl,
        .act _ _ ⟨.table "test" plainPoolSize, .store, false⟩ rfl rfl, trivial⟩
    exact hrun _ hworks

end Session

end Roster
