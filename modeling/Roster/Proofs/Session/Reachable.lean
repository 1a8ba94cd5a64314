import Roster.Proofs.Session.Run

/-!
# `Roster.Proofs.Session.Reachable`: what holds in every session

A session starts in a world where no store was made, and goes from step
to step (`Session.Reachable`). Whatever was done, every name stands for
a place that is in the world, and every database is sound: no transaction
is open, and the next identifier is greater than those in use
(`Session.Sound`). `execute_sound` goes through the steps;
`reachable_sound` follows by induction on how the session came about.
-/

set_option autoImplicit false

namespace Roster.Session

/-- Every name stands for a place in the world, and every database is
sound. -/
structure Sound (s : Session) : Prop where
  handles : ∀ entry ∈ s.handles, entry.2.place.InWorld s.world
  tables : ∀ name, (s.world.database name).Sound

variable {s : Session} {w : World}

/-- The place of a name is in the world. -/
theorem Sound.place {name : String} {handle : Handle} (h : s.Sound)
    (hname : s.handle? name = some handle) : handle.place.InWorld s.world :=
  h.handles (name, handle) (mem_of_handle? hname)

/-- Work on the world that takes nothing away keeps a session sound. -/
theorem Sound.withWorld (h : s.Sound) (hgrows : s.world.Grows w) : (s.withWorld w).Sound where
  handles entry hentry := (h.handles entry hentry).of_grows hgrows
  tables name := hgrows.tables name (h.tables name)

/-- Forgetting a name keeps a session sound. -/
theorem Sound.forget (h : s.Sound) (name : String) : (s.forget name).Sound where
  handles entry hentry := h.handles entry (List.mem_filter.mp hentry).1
  tables := h.tables

/-- Naming a place in the world keeps a session sound. -/
theorem Sound.bind {handle : Handle} (h : s.Sound) (name : String)
    (hin : handle.place.InWorld s.world) : (s.bind name handle).Sound where
  handles entry hentry := by
    rcases List.mem_cons.mp hentry with rfl | hrest
    · exact hin
    · exact (h.forget name).handles entry hrest
  tables := h.tables

/-! ### Steps -/

/-- Naming what was opened keeps a session sound. -/
theorem ofOpening_sound (h : s.Sound) (name : String) (form : Form)
    {outcome : Outcome World StoreError Place} (hgrows : s.world.Grows outcome.state)
    (hin : ∀ place, outcome.result = .ok place → place.InWorld outcome.state) :
    (s.ofOpening name form outcome).state.Sound := by
  have hworld := h.withWorld hgrows
  unfold ofOpening
  simp only
  cases hresult : outcome.result with
  | error e => exact hworld
  | ok place => exact hworld.bind name (hin place hresult)

/-- Cloning keeps a session sound. -/
theorem clone_sound (h : s.Sound) (source name : String) : (s.clone source name).state.Sound := by
  unfold clone
  cases hsource : s.handle? source with
  | none => exact h
  | some handle =>
    simp only
    split
    · exact h.bind name (h.place hsource)
    · exact h

/-- Making a seeder keeps a session sound. -/
theorem makeSeeder_sound (h : s.Sound) (source name : String) :
    (s.makeSeeder source name).state.Sound := by
  unfold makeSeeder
  cases hsource : s.handle? source with
  | none => exact h
  | some handle =>
    have hin := h.place hsource
    simp only
    split
    · exact h.bind name hin
    · exact (h.forget source).bind name hin
    · exact h

/-- Identifiers counted on past some rows are greater than theirs. -/
theorem id_lt_foldl_max (rows : List Tables.Row) (nextId : Int) :
    nextId ≤ rows.foldl (fun n row => max n (row.id + 1)) nextId ∧
      ∀ row ∈ rows, row.id < rows.foldl (fun n row => max n (row.id + 1)) nextId := by
  induction rows generalizing nextId with
  | nil => exact ⟨Int.le_refl _, by simp⟩
  | cons first rest ih =>
    obtain ⟨hle, hrest⟩ := ih (max nextId (first.id + 1))
    simp only [List.foldl_cons, List.mem_cons]
    refine ⟨by omega, ?_⟩
    rintro row (rfl | hrow)
    · omega
    · exact hrest row hrow

/-- Rows from elsewhere keep a database sound that counts on past them. -/
theorem countPast_sound {d : Tables.Database} (h : d.Sound) (rows : List Tables.Row) :
    (countPast (addRows d rows) rows).Sound where
  closed := h.closed
  fresh row hrow := by
    obtain ⟨hle, hmore⟩ := id_lt_foldl_max rows d.nextId
    rcases List.mem_append.mp (show row ∈ d.rows ++ rows from hrow) with hold | hnew
    · exact Int.lt_of_lt_of_le (h.fresh row hold) hle
    · exact hmore row hnew

/-- Work on a database keeps a session sound if it keeps the database
sound. -/
theorem changeDatabase_sound (h : s.Sound) (name : String)
    {change : Tables.Database → Tables.Database}
    (hchange : ∀ d : Tables.Database, d.Sound → (change d).Sound) :
    (s.changeDatabase name change).state.Sound :=
  Sound.withWorld (s := s.usingTables) ⟨h.handles, h.tables⟩
    (World.grows_setDatabase (hchange _))

/-- Naming the table of a database keeps a session sound. -/
theorem openDatabase_sound (h : s.Sound) (name database : String) :
    (s.openDatabase name database).state.Sound := by
  unfold openDatabase
  split
  · exact h
  · split
    · exact h
    · exact h.bind name trivial

/-- Work on the document server keeps a session sound. -/
theorem changeDocuments_sound (h : s.Sound) (change : Documents.Server → Documents.Server) :
    (s.changeDocuments change).state.Sound :=
  Sound.withWorld (s := s.usingDocuments) ⟨h.handles, h.tables⟩
    (s.world.grows_setDocuments _)

/-- A run of the program keeps a session sound. -/
theorem runProgram_sound (h : s.Sound) (environment : Environment) :
    (s.runProgram environment).state.Sound := by
  have hgrows := Program.run_grows (Config.ofEnvironment environment.databaseUrl) s.world
  rw [← Program.transcript_world environment s.world] at hgrows
  unfold runProgram
  -- The stores in memory are put back as they were.
  refine h.withWorld ⟨?_, ?_, ?_⟩
  · exact Nat.le_refl _
  · exact hgrows.scripted
  · exact hgrows.tables

/-- Every step keeps a session sound. -/
theorem execute_sound (h : s.Sound) (step : Step) : (s.execute step).state.Sound := by
  cases step with
  | memory name records =>
    have hgrows : s.world.Grows (s.world.addMemory (.ofRecords records)).2 :=
      ⟨by simp [World.addMemory], Nat.le_refl _, fun _ => id⟩
    exact (h.withWorld hgrows).bind name (by simp [World.addMemory, Place.InWorld, withWorld])
  | scripted name collection records =>
    have hgrows : s.world.Grows (s.world.addScripted collection (.ofRecords records)).2 :=
      ⟨Nat.le_refl _, by simp [World.addScripted], fun _ => id⟩
    exact (h.withWorld hgrows).bind name (by simp [World.addScripted, Place.InWorld, withWorld])
  | connect name url =>
    exact ofOpening_sound h name .opened (s.world.connect_grows url)
      fun _ => World.connect_inWorld
  | connectDocuments name url =>
    exact ofOpening_sound h name .store (World.openKind_grows (some .documents) url s.world)
      fun _ => World.openKind_inWorld (some .documents)
  | connectTable name url =>
    exact ofOpening_sound h name .store (World.openKind_grows (some .table) url s.world)
      fun _ => World.openKind_inWorld (some .table)
  | documents name place =>
    exact Sound.bind (s := s.usingDocuments) ⟨h.handles, h.tables⟩ name trivial
  | table name database =>
    exact openDatabase_sound (s := s.usingTables) ⟨h.handles, h.tables⟩ name database
  | clone source name => exact clone_sound h source name
  | seeder source name => exact makeSeeder_sound h source name
  | act name action =>
    -- Nothing that is done on a handle touches the names.
    simp only [execute]
    cases hname : s.handle? name with
    | none => exact h
    | some handle =>
      obtain ⟨w, hstate, hgrows, _⟩ := s.perform_world handle action
      simp only [hstate]
      exact h.withWorld hgrows
  | other name =>
    simp only [execute]
    split <;> exact h
  | putDocuments place documents => exact changeDocuments_sound h _
  | failCommand fault => exact changeDocuments_sound h _
  | putRows database rows =>
    exact changeDatabase_sound h database fun d hd => countPast_sound hd rows
  | failStatement database fault =>
    exact changeDatabase_sound h database fun d hd => ⟨hd.closed, hd.fresh⟩
  | editMigrations database edit =>
    exact changeDatabase_sound h database fun d hd => ⟨hd.closed, hd.fresh⟩
  | program environment => exact runProgram_sound h environment

/-- Forgetting what the servers received keeps a session sound. -/
theorem clearReceived_sound (h : s.Sound) : s.clearReceived.Sound := by
  refine h.withWorld ⟨Nat.le_refl _, Nat.le_refl _, fun name hd => ?_⟩
  show (s.clearReceived.world.database name).Sound
  rw [database_clearReceived]
  exact ⟨hd.closed, hd.fresh⟩

/-- Every step leads from sound to sound sessions. -/
theorem step_sound (h : s.Sound) (step : Step) : (s.step step).2.Sound :=
  execute_sound (clearReceived_sound h) step

/-! ### Sessions from the start -/

/-- A world in which no store was made and no database of the table server
was used. -/
structure Fresh (w : World) : Prop where
  memories : w.memories = []
  scripted : w.scripted = []
  tables : ∀ name, ∃ listsByVersion, w.database name = .empty listsByVersion

/-- A session that comes about from the start by some steps. -/
def Reachable (s : Session) : Prop :=
  ∃ w steps, Fresh w ∧ s = (start w).after steps

/-- A session in which nothing was done is sound. -/
theorem start_sound (h : Fresh w) : (start w).Sound where
  handles entry hentry := by cases hentry
  tables name := by
    obtain ⟨listsByVersion, hempty⟩ := h.tables name
    show (w.database name).Sound
    rw [hempty]
    exact ⟨rfl, by simp [Tables.Database.empty, Tables.Database.rows]⟩

/-- Some steps lead from sound to sound sessions. -/
theorem after_sound (h : s.Sound) (steps : List Step) : (s.after steps).Sound := by
  induction steps generalizing s with
  | nil => exact h
  | cons step rest ih => exact ih (step_sound h step)

/-- Every session that comes about is sound. -/
theorem reachable_sound (h : s.Reachable) : s.Sound := by
  obtain ⟨w, steps, hfresh, rfl⟩ := h
  exact after_sound (start_sound hfresh) steps

end Roster.Session
