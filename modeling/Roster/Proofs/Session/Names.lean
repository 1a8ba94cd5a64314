import Roster.Proofs.Session.Run

/-!
# `Roster.Proofs.Session.Names`: what a step does with names and cells

A step gives at most one name (`Step.gives?`). If it fails, no name
changes. If it succeeds, the name stands for a store that the step made,
or for the place of a store that it hands on from another name
(`Step.source?`); all other names stand for what they stood for, except
that the name of an opened store is gone when the store has moved into a
seeder. `Session.Named` says this, and `step_named` shows it of every
step.

A store inside the process that a step makes gets a cell that was not
there, and `step_held` says of a cell that is there when it stays as it
is: unless something is done on a handle in that very cell.
-/

set_option autoImplicit false

namespace Roster

/-- The name that a step gives, if it succeeds. -/
def Step.gives? : Step → Option String
  | .memory name _ | .scripted name _ _ | .connect name _ | .connectDocuments name _
  | .connectTable name _ | .documents name _ | .table name _ => some name
  | .clone _ name | .seeder _ name => some name
  | .act .. | .other _ | .putDocuments .. | .failCommand _ | .putRows .. | .failStatement ..
  | .editMigrations .. | .program _ => none

/-- The name whose store a step hands on. -/
def Step.source? : Step → Option String
  | .clone source _ | .seeder source _ => some source
  | _ => none

namespace Session

variable {s s' : Session} {name other : String} {handle : Handle} {step : Step} {cell : Cell}

/-! ### Names -/

/-- A name stands for the handle that it was given to. -/
theorem handle?_bind_self (s : Session) (name : String) (handle : Handle) :
    (s.bind name handle).handle? name = some handle :=
  List.lookup_cons_self

/-- Giving one name changes no other. -/
theorem handle?_bind_ne (s : Session) (handle : Handle) (h : other ≠ name) :
    (s.bind name handle).handle? other = s.handle? other :=
  lookup_cons_filter_ne s.handles handle h

/-- A name that was taken away stands for nothing. -/
theorem handle?_forget_self (s : Session) (name : String) : (s.forget name).handle? name = none :=
  lookup_filter_self s.handles name

/-- Taking one name away changes no other. -/
theorem handle?_forget_ne (s : Session) (h : other ≠ name) :
    (s.forget name).handle? other = s.handle? other :=
  lookup_filter_ne s.handles h

/-- What a step does with names, by its result and the session after
it. -/
inductive Named (s : Session) (step : Step) (result : Except StepError Value) (s' : Session) :
    Prop where
  /-- The step fails, or it is of a kind that gives no name. -/
  | unnamed (hgives : step.gives? = none ∨ ¬result.isOk)
      (hsame : ∀ name, s'.handle? name = s.handle? name)
  /-- The name stands for a new store. If that has a cell, the cell is
  new as well. -/
  | made {name : String} {handle : Handle} (hgives : step.gives? = some name)
      (hsource : step.source? = none) (hok : result.isOk)
      (hname : s'.handle? name = some handle)
      (hother : ∀ other, other ≠ name → s'.handle? other = s.handle? other)
      (hcell : ∀ cell, handle.place.cell? = some cell →
        s.world.held? cell = none ∧ (s'.world.held? cell).isSome)
  /-- The name stands for the place of a store that has a name. -/
  | handed {source name : String} {old new : Handle} (hgives : step.gives? = some name)
      (hsource : step.source? = some source) (hok : result.isOk)
      (hold : s.handle? source = some old) (hname : s'.handle? name = some new)
      (hplace : new.place = old.place)
      (hother : ∀ other, other ≠ name → s'.handle? other = s.handle? other ∨
        s'.handle? other = none ∧ step = .seeder other name)

/-- A step that leaves the handles alone and gives no name. -/
theorem Named.of_handles {result : Except StepError Value} (hgives : step.gives? = none)
    (h : s'.handles = s.handles) : Named s step result s' := by
  refine .unnamed (.inl hgives) fun name => ?_
  unfold handle?
  rw [h]

/-- A step that is refused. -/
theorem refuse_named (s : Session) (step : Step) (e : StepError) :
    Named s step (s.refuse e).result (s.refuse e).state :=
  .unnamed (.inr nofun) fun _ => rfl

/-- Naming a new store. -/
theorem bind_named (hgives : step.gives? = some name) (hsource : step.source? = none)
    {w : World} (hcell : ∀ cell, handle.place.cell? = some cell →
      s.world.held? cell = none ∧ (w.held? cell).isSome) :
    Named s step (((s.withWorld w).bind name handle).done).result
      (((s.withWorld w).bind name handle).done).state :=
  .made hgives hsource rfl (handle?_bind_self _ name handle)
    (fun _ hother => handle?_bind_ne (s.withWorld w) handle hother) hcell

/-- Naming a store that was opened. -/
theorem ofOpening_named (hgives : step.gives? = some name) (hsource : step.source? = none)
    (form : Form) {outcome : Outcome World StoreError Place}
    (hcell : ∀ place, outcome.result = .ok place → ∀ cell, place.cell? = some cell →
      s.world.held? cell = none ∧ (outcome.state.held? cell).isSome) :
    Named s step (s.ofOpening name form outcome).result (s.ofOpening name form outcome).state := by
  unfold ofOpening
  cases hresult : outcome.result with
  | error e => exact .unnamed (.inr nofun) fun _ => rfl
  | ok place => exact bind_named hgives hsource (hcell place hresult)

/-- Cloning names the place of a store once more. -/
theorem clone_named (s : Session) (source name : String) :
    Named s (.clone source name) (s.clone source name).result (s.clone source name).state := by
  unfold clone
  cases hsource : s.handle? source with
  | none => exact s.refuse_named _ _
  | some old =>
    simp only
    split
    · exact .handed rfl rfl rfl hsource (s.handle?_bind_self name old) rfl
        fun _ hother => .inl (s.handle?_bind_ne old hother)
    · exact s.refuse_named _ _

/-- A seeder has the place of the store that it was made from. -/
theorem makeSeeder_named (s : Session) (source name : String) :
    Named s (.seeder source name) (s.makeSeeder source name).result
      (s.makeSeeder source name).state := by
  unfold makeSeeder
  cases hsource : s.handle? source with
  | none => exact s.refuse_named _ _
  | some old =>
    simp only
    split
    · exact .handed rfl rfl rfl hsource (s.handle?_bind_self name _) rfl
        fun _ hother => .inl (s.handle?_bind_ne _ hother)
    · -- The opened store moves, and its own name is gone.
      refine .handed rfl rfl rfl hsource ((s.forget source).handle?_bind_self name _) rfl
        fun other hother => ?_
      by_cases hmoved : other = source
      · subst hmoved
        refine .inr ⟨?_, rfl⟩
        exact ((s.forget other).handle?_bind_ne _ hother).trans (s.handle?_forget_self other)
      · refine .inl ?_
        exact ((s.forget source).handle?_bind_ne _ hother).trans (s.handle?_forget_ne hmoved)
    · exact s.refuse_named _ _

/-- What every step does with names. -/
theorem execute_named (s : Session) (step : Step) :
    Named s step (s.execute step).result (s.execute step).state := by
  cases step with
  | memory name records =>
    refine bind_named rfl rfl fun cell hcell => ?_
    obtain ⟨hnew, hheld⟩ := World.addMemory_cell (w := s.world) (m := .ofRecords records) hcell
    exact ⟨hnew, Option.isSome_of_eq_some hheld⟩
  | scripted name collection records =>
    refine bind_named rfl rfl fun cell hcell => ?_
    obtain ⟨hnew, hheld⟩ := World.addScripted_cell (w := s.world) (s := .ofRecords records) hcell
    exact ⟨hnew, Option.isSome_of_eq_some hheld⟩
  | connect name url =>
    refine ofOpening_named rfl rfl .opened fun place hok cell hcell => ?_
    obtain ⟨hnew, hheld⟩ := World.connect_cell hok hcell
    exact ⟨hnew, Option.isSome_of_eq_some hheld⟩
  | connectDocuments name url =>
    refine ofOpening_named rfl rfl .store fun place hok cell hcell => ?_
    obtain ⟨hnew, hheld⟩ := World.openKind_cell (some .documents) hok hcell
    exact ⟨hnew, Option.isSome_of_eq_some hheld⟩
  | connectTable name url =>
    refine ofOpening_named rfl rfl .store fun place hok cell hcell => ?_
    obtain ⟨hnew, hheld⟩ := World.openKind_cell (some .table) hok hcell
    exact ⟨hnew, Option.isSome_of_eq_some hheld⟩
  | documents name place =>
    exact .made rfl rfl rfl (s.usingDocuments.handle?_bind_self name _)
      (fun _ hother => s.usingDocuments.handle?_bind_ne _ hother) nofun
  | table name database =>
    simp only [execute, openDatabase]
    split
    · exact .unnamed (.inr nofun) fun _ => rfl
    · split
      · exact .unnamed (.inr nofun) fun _ => rfl
      · exact .made rfl rfl rfl (s.usingTables.handle?_bind_self name _)
          (fun _ hother => s.usingTables.handle?_bind_ne _ hother) nofun
  | clone source name => exact s.clone_named source name
  | seeder source name => exact s.makeSeeder_named source name
  | act name action =>
    simp only [execute]
    cases s.handle? name with
    | none => exact s.refuse_named _ _
    | some handle =>
      obtain ⟨w, hstate, _⟩ := s.perform_world handle action
      exact .of_handles rfl (by simp only [hstate]; rfl)
  | other name =>
    simp only [execute]
    split <;> exact s.refuse_named _ _
  | putDocuments place documents => exact .of_handles rfl rfl
  | failCommand fault => exact .of_handles rfl rfl
  | putRows database rows => exact .of_handles rfl rfl
  | failStatement database fault => exact .of_handles rfl rfl
  | editMigrations database edit => exact .of_handles rfl rfl
  | program environment =>
    refine .of_handles rfl ?_
    simp only [execute, runProgram_state]
    generalize (Program.transcript environment s.world).2 = after
    rfl

/-- Forgetting what the servers received changes no cell. -/
theorem held?_clearReceived (s : Session) (cell : Cell) :
    s.clearReceived.world.held? cell = s.world.held? cell := by
  cases cell <;> rfl

/-- What every step of a session does with names. -/
theorem step_named (s : Session) (step : Step) :
    Named s step (s.step step).1.result (s.step step).2 := by
  cases s.clearReceived.execute_named step with
  | unnamed hgives hsame => exact .unnamed hgives hsame
  | made hgives hsource hok hname hother hcell =>
    simp only [held?_clearReceived] at hcell
    exact .made hgives hsource hok hname hother hcell
  | handed hgives hsource hok hold hname hplace hother =>
    exact .handed hgives hsource hok hold hname hplace hother

/-! ### Cells -/

/-- What was opened leaves the cells as opening left them. -/
theorem ofOpening_world (s : Session) (name : String) (form : Form)
    (outcome : Outcome World StoreError Place) :
    (s.ofOpening name form outcome).state.world = outcome.state := by
  unfold ofOpening
  cases outcome.result <;> rfl

/-- A cell that is there is not that of the next store in memory. -/
theorem ne_next_of_held? {w : World} {held : Held} (h : w.held? cell = some held) :
    cell ≠ .memory w.memories.length := by
  rintro rfl
  have hlt := World.isSome_held?_memory.mp (Option.isSome_of_eq_some h)
  exact Nat.lt_irrefl _ hlt

/-- Naming the table of a database changes nothing in the world. -/
theorem openDatabase_world (s : Session) (name database : String) :
    (s.openDatabase name database).state.world = s.world := by
  unfold openDatabase
  split
  · rfl
  · split <;> rfl

/-- A cell that is there stays as it is unless something is done on a
handle in it. -/
theorem execute_held {held : Held} (h : s.world.held? cell = some held)
    (hact : ∀ name action handle, step = .act name action → s.handle? name = some handle →
      handle.place.cell? ≠ some cell) :
    (s.execute step).state.world.held? cell = some held := by
  cases step with
  | memory name records =>
    -- The new cell is another one, as it was not there.
    rw [← h]
    refine World.addMemory_held s.world _ fun hcell => ?_
    exact nomatch h.symm.trans (World.addMemory_cell hcell).1
  | scripted name collection records =>
    rw [← h]
    refine World.addScripted_held s.world collection _ fun hcell => ?_
    exact nomatch h.symm.trans (World.addScripted_cell hcell).1
  | connect name url =>
    simp only [execute, ofOpening_world]
    rw [World.connect_held url (ne_next_of_held? h), h]
  | connectDocuments name url =>
    simp only [execute, ofOpening_world]
    exact (World.openKind_held (some .documents) url (ne_next_of_held? h)).trans h
  | connectTable name url =>
    simp only [execute, ofOpening_world]
    exact (World.openKind_held (some .table) url (ne_next_of_held? h)).trans h
  | documents name place => exact h
  | table name database =>
    simp only [execute, openDatabase_world]
    exact h
  | clone source name =>
    simp only [execute, clone_world]
    exact h
  | seeder source name =>
    simp only [execute, makeSeeder_world]
    exact h
  | act name action =>
    -- The one step that works on a cell.
    simp only [execute]
    cases hname : s.handle? name with
    | none => exact h
    | some handle =>
      obtain ⟨w, hstate, _, honly⟩ := s.perform_world handle action
      simp only [hstate]
      exact (honly.held cell (hact name action handle rfl hname)).trans h
  | other name =>
    simp only [execute]
    split <;> exact h
  | putDocuments place documents => cases cell <;> exact h
  | failCommand fault => cases cell <;> exact h
  | putRows database rows => cases cell <;> exact h
  | failStatement database fault => cases cell <;> exact h
  | editMigrations database edit => cases cell <;> exact h
  | program environment =>
    have hrun := Program.run_scripted (Config.ofEnvironment environment.databaseUrl) s.world
    simp only [← Program.transcript_world] at hrun
    simp only [execute, runProgram_state]
    generalize (Program.transcript environment s.world).2 = after at hrun ⊢
    cases cell with
    | memory number => exact h
    | scripted number =>
      -- The stores in memory are put back, those that fail on demand are not.
      exact (hrun number).trans h

/-- A cell that is there stays as it is through a step unless something
is done on a handle in it. -/
theorem step_held {held : Held} (h : s.world.held? cell = some held)
    (hact : ∀ name action handle, step = .act name action → s.handle? name = some handle →
      handle.place.cell? ≠ some cell) :
    (s.step step).2.world.held? cell = some held :=
  execute_held ((s.held?_clearReceived cell).trans h) hact

/-- A cell that is there stays there. -/
theorem step_held_isSome (h : (s.world.held? cell).isSome) (step : Step) :
    ((s.step step).2.world.held? cell).isSome := by
  -- What is done on a handle may change its cell but does not take it away;
  -- all other steps leave cells as they are.
  by_cases hact : ∃ name action, step = .act name action
  · obtain ⟨name, action, rfl⟩ := hact
    rw [← s.held?_clearReceived cell] at h
    cases hname : s.handle? name with
    | none =>
      have hstate : (s.step (.act name action)).2 = s.clearReceived := by
        show (s.clearReceived.execute (.act name action)).state = _
        simp only [execute]
        rw [show s.clearReceived.handle? name = none from hname]
        rfl
      rwa [hstate]
    | some handle =>
      obtain ⟨w, hstate, hgrows, _⟩ := s.clearReceived.perform_world handle action
      rw [(step_act action hname).2, hstate]
      exact hgrows.held h
  · obtain ⟨held, hheld⟩ := Option.isSome_iff_exists.mp h
    exact Option.isSome_of_eq_some
      (step_held hheld fun name action _ heq => absurd ⟨name, action, heq⟩ hact)

end Session

end Roster
