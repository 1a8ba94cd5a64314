import Roster.Proofs.Session.Run

/-!
# `Roster.Proofs.Session.Refinement`: every store is the plain list

`run_refines_list` is the main theorem. A run works on one place through
any of its names, the names of its clones and of its seeders included
(`Uses`). It starts where nothing is in the way (`Place.Starts`): a store
inside the process with some records, a collection that is not there, or
a table that is there and empty. Then at every step the answer is the
one of the plain list, and what is kept is what the plain list holds, in
its order. A table refuses some batches (`Tables.refuses`); the list it
is compared with skips these.

`step_store_refines` is the step: it keeps `Place.Calm`, that nothing is
in the way, along with the agreement of what is kept.
-/

set_option autoImplicit false

namespace Roster

open Store (Operation)

namespace Place

/-- A place at the start of a run, with the records that are there. -/
def Starts (w : World) (records : List Employee) : Place → Prop
  | .memory number => w.memories[number]? = some (.ofRecords records)
  | .scripted number _ => w.scripted[number]? = some (.ofRecords records)
  | .documents client =>
    client.Calm w.documents ∧ w.documents.has client.place.name = false ∧ records = []
  | .table database _ =>
    (w.database database).table = some [] ∧ (w.database database).saved = none ∧
      (w.database database).faults = [] ∧ records = []

variable {p : Place} {w : World} {records : List Employee}

/-- At the start nothing is in the way. -/
theorem Starts.calm (h : p.Starts w records) : p.Calm w := by
  cases p with
  | memory number =>
    refine ⟨(List.getElem?_eq_some_iff.mp h).1, ?_⟩
    rw [World.memory_eq h]
    rfl
  | scripted number collection =>
    refine ⟨(List.getElem?_eq_some_iff.mp h).1, ?_⟩
    rw [World.script_eq h]
    rfl
  | documents client => exact h.1
  | table database size =>
    obtain ⟨htable, hsaved, hfaults, _⟩ := h
    have hcalm : (w.database database).Calm := ⟨by rw [htable]; rfl, hfaults⟩
    have hsound : (w.database database).Sound :=
      ⟨hsaved, by simp [Tables.Database.rows_eq htable]⟩
    exact ⟨hcalm, hsound⟩

/-- At the start the records are kept. -/
theorem Starts.kept (h : p.Starts w records) : p.contents w = records.map p.keep := by
  cases p with
  | memory number =>
    show (w.memory number).records = records.map id
    rw [World.memory_eq h, List.map_id]
    rfl
  | scripted number collection =>
    show (w.script number).records = records.map id
    rw [World.script_eq h, List.map_id]
    rfl
  | documents client =>
    obtain ⟨_, hhas, rfl⟩ := h
    show (w.documents.documents client.place.name).map Documents.Document.shown = []
    rw [Documents.Server.documents_of_not_has hhas, List.map_nil]
  | table database size =>
    obtain ⟨htable, _, _, rfl⟩ := h
    show Tables.namesOf (w.database database).rows = []
    rw [Tables.Database.rows_eq htable]
    exact Tables.namesOf_nil

end Place

namespace Session

/-- A step of a run on a place: an operation of its store through any
name for it, or a new name. -/
inductive Uses (p : Place) (s : Session) : Step → Prop where
  | store (name : String) (operation : Operation) (handle : Handle)
      (hname : s.handle? name = some handle) (hplace : handle.place = p) :
      Uses p s (.act name (.store operation))
  | clone (source name : String) : Uses p s (.clone source name)
  | seeder (source name : String) : Uses p s (.seeder source name)

/-- The answers to the operations among some steps. -/
def replies (s : Session) : List Step → List (Except StepError Value)
  | [] => []
  | step :: rest =>
    (step.operation?.map fun _ => (s.step step).1.result).toList ++ (s.step step).2.replies rest

/-- The answer of a store as the answer to a step. -/
def resultOf (result : Except StoreError Store.Reply) : Except StepError Value :=
  (result.mapError .store).map .ofReply

variable {s : Session} {p : Place} {records : List Employee}

/-- Forgetting what the servers received puts nothing in the way. -/
theorem calm_clearReceived (h : p.Calm s.world) : p.Calm s.clearReceived.world := by
  cases p with
  | memory number => exact h
  | scripted number collection => exact h
  | documents client => exact { h with }
  | table database size =>
    show (s.clearReceived.world.database database).Calm ∧
      (s.clearReceived.world.database database).Sound
    rw [database_clearReceived]
    exact ⟨⟨h.1.table, h.1.faults⟩, h.2.closed, h.2.fresh⟩

/-- An operation in a run is answered as by the plain list, and makes of
what is kept what it makes of the list. -/
theorem step_store_refines {name : String} {handle : Handle} (operation : Operation)
    (hname : s.handle? name = some handle) (hcalm : handle.place.Calm s.world)
    (hkept : handle.place.contents s.world = records.map handle.place.keep) :
    (s.step (.act name (.store operation))).1.result =
        resultOf (operation.attempt handle.place.refuses records).1 ∧
      handle.place.Calm (s.step (.act name (.store operation))).2.world ∧
      handle.place.contents (s.step (.act name (.store operation))).2.world =
        (operation.attempt handle.place.refuses records).2.map handle.place.keep := by
  obtain ⟨hresult, hstate⟩ := step_act (.store operation) hname
  rw [← contents_clearReceived] at hkept
  obtain ⟨w, hrun, hcalm', hkept'⟩ :=
    Place.perform_of_calm (calm_clearReceived hcalm) hkept operation
  have hperform : s.clearReceived.perform handle (.store operation) =
      s.clearReceived.ofAccess .ofReply (handle.place.store.perform operation) := rfl
  rw [hresult, hstate, hperform, ofAccess, hrun]
  exact ⟨rfl, hcalm', hkept'⟩

/-- A step that leaves the world as it finds it keeps a place as it
is. -/
theorem step_name_refines (step : Step)
    (hworld : (s.clearReceived.execute step).state.world = s.clearReceived.world)
    (hcalm : p.Calm s.world) :
    p.Calm (s.step step).2.world ∧ p.contents (s.step step).2.world = p.contents s.world := by
  show p.Calm (s.clearReceived.execute step).state.world ∧
    p.contents (s.clearReceived.execute step).state.world = _
  rw [hworld]
  exact ⟨calm_clearReceived hcalm, contents_clearReceived p s⟩

/-- A run from where nothing is in the way is answered as by the plain
list, and leaves what the plain list holds. -/
theorem run_refines (steps : List Step) (hcalm : p.Calm s.world)
    (hkept : p.contents s.world = records.map p.keep) (hrun : s.Run (Uses p) steps) :
    s.replies steps =
        (Operation.answers p.refuses (steps.filterMap Step.operation?) records).map resultOf ∧
      p.contents (s.after steps).world =
        (Operation.leaves p.refuses (steps.filterMap Step.operation?) records).map p.keep := by
  -- The session and the list go on together: `hcalm` and `hkept` are what
  -- a step keeps, for the list that it leaves.
  induction steps generalizing s records with
  | nil => exact ⟨rfl, hkept⟩
  | cons step rest ih =>
    obtain ⟨huses, hrest⟩ := hrun
    cases huses with
    | store name operation handle hname hplace =>
      subst hplace
      obtain ⟨hresult, hcalm', hkept'⟩ := step_store_refines operation hname hcalm hkept
      obtain ⟨hreplies, hleaves⟩ := ih hcalm' hkept' hrest
      refine ⟨?_, hleaves⟩
      show (s.step (.act name (.store operation))).1.result :: _ = _
      rw [hresult, hreplies]
      rfl
    | clone source name =>
      obtain ⟨hcalm', hsame⟩ := step_name_refines (.clone source name)
        (clone_world _ source name) hcalm
      exact ih hcalm' (hsame.trans hkept) hrest
    | seeder source name =>
      obtain ⟨hcalm', hsame⟩ := step_name_refines (.seeder source name)
        (makeSeeder_world _ source name) hcalm
      exact ih hcalm' (hsame.trans hkept) hrest

/-- Every store is the plain list: at every step of a run on a place the
answer is that of the list, and what is kept is what the list holds. -/
theorem run_refines_list (s : Session) (p : Place) (records : List Employee)
    (steps : List Step) (hstart : p.Starts s.world records) (hrun : s.Run (Uses p) steps) :
    s.replies steps =
        (Operation.answers p.refuses (steps.filterMap Step.operation?) records).map resultOf ∧
      ∀ done, done <+: steps →
        p.contents (s.after done).world =
          (Operation.leaves p.refuses (done.filterMap Step.operation?) records).map p.keep := by
  refine ⟨(run_refines steps hstart.calm hstart.kept hrun).1, fun done hdone => ?_⟩
  exact (run_refines done hstart.calm hstart.kept (hrun.of_prefix hdone)).2

/-- A session in which the empty table has a name. -/
def tableSession : Session :=
  (start
    { memories := []
      scripted := []
      documents := .empty "localhost:27017" false
      tables := ⟨"localhost:5432", true,
        [("test", { Tables.Database.empty false with table := some [] })]⟩ }).after
    [.table "store" "test"]

/-- A run through a clone, a seeder and the store itself. The table does
not take the second batch. -/
def sharedRun : List Step :=
  [.clone "store" "clone",
   .act "clone" (.store (.insert [⟨"Ada", "Byron"⟩])),
   .seeder "store" "seeder",
   .act "seeder" (.store (.replace [⟨"Grace\x00", "Hopper"⟩])),
   .act "store" (.store .all)]

/-- What one name writes another lists, and what is refused is skipped. -/
theorem replies_sharedRun :
    tableSession.replies sharedRun =
      [.ok (.count 1),
       .error (.store (.table (.statement Tables.Database.nulByte))),
       .ok (.records [⟨"Ada", "Byron"⟩])] := by
  have hstart : (Place.table "test" plainPoolSize).Starts tableSession.world [] :=
    ⟨rfl, rfl, rfl, rfl⟩
  have hrun : tableSession.Run (Uses (.table "test" plainPoolSize)) sharedRun :=
    ⟨.clone .., .store _ _ ⟨.table "test" plainPoolSize, .store, false⟩ rfl rfl, .seeder ..,
      .store _ _ ⟨.table "test" plainPoolSize, .seeder, false⟩ rfl rfl,
      .store _ _ ⟨.table "test" plainPoolSize, .store, false⟩ rfl rfl, trivial⟩
  exact (run_refines_list tableSession (.table "test" plainPoolSize) [] sharedRun hstart
    hrun).1.trans rfl

end Session

end Roster
