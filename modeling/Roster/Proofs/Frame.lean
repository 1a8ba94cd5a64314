import Roster.Proofs.Documents.Isolation
import Roster.Proofs.Program

/-!
# `Roster.Proofs.Frame`: an operation touches only its own place

The stores inside the process live in numbered cells. A cell holds all
there is to such a store: its records, and whether it is in service or
which failures are to come (`World.held?`). `World.OnlyAt` says of two
states of the world that between them nothing changed outside a place:
every other cell holds what it held, and every collection but the one at
the place is as it was.

`Place.perform_onlyAt` shows this for every operation, whether it
succeeds or fails. Opening a store leaves all cells alone, and a new
store in memory gets a cell that was not there (`World.openKind_held`,
`World.openKind_cell`). A run of the program works on a store that it
opens itself, so it changes no store that fails on demand
(`Program.run_scripted`).
-/

set_option autoImplicit false

namespace Roster

open Store (Operation)

/-! ### Cells -/

/-- Where a store inside the process lives. -/
inductive Cell where
  | memory (number : Nat)
  | scripted (number : Nat)
deriving DecidableEq, Repr

/-- What a store inside the process holds. -/
inductive Held where
  /-- Records, and whether the store is in service. -/
  | memory (m : Memory)
  /-- Records, and the failures that are to come. -/
  | scripted (s : Scripted)
deriving DecidableEq, Repr

/-- What a cell holds, if it is there. -/
def World.held? (w : World) : Cell → Option Held
  | .memory number => w.memories[number]?.map .memory
  | .scripted number => w.scripted[number]?.map .scripted

/-- The cell of a store inside the process. -/
def Place.cell? : Place → Option Cell
  | .memory number => some (.memory number)
  | .scripted number _ => some (.scripted number)
  | .documents _ | .table .. => none

namespace World

variable {w w₁ w₂ w₃ : World} {p : Place}

/-- The cells of stores in memory are numbered through. -/
theorem isSome_held?_memory {number : Nat} :
    (w.held? (.memory number)).isSome ↔ number < w.memories.length := by
  simp [held?]

/-- The cells of stores that fail on demand are numbered through. -/
theorem isSome_held?_scripted {number : Nat} :
    (w.held? (.scripted number)).isSome ↔ number < w.scripted.length := by
  simp [held?]

/-- A world that grows loses no cell. -/
theorem Grows.held (h : w₁.Grows w₂) {cell : Cell} (hcell : (w₁.held? cell).isSome) :
    (w₂.held? cell).isSome := by
  cases cell with
  | memory number =>
    rw [isSome_held?_memory] at hcell ⊢
    exact Nat.lt_of_lt_of_le hcell h.memories
  | scripted number =>
    rw [isSome_held?_scripted] at hcell ⊢
    exact Nat.lt_of_lt_of_le hcell h.scripted

/-- One more at the end changes nothing before it and nothing after. -/
theorem getElem?_append_singleton_ne {α : Type} (l : List α) (a : α) {n : Nat}
    (h : n ≠ l.length) : (l ++ [a])[n]? = l[n]? := by
  rcases Nat.lt_or_gt_of_ne h with hlt | hgt
  · exact List.getElem?_append_left hlt
  · rw [List.getElem?_eq_none (by simp; omega), List.getElem?_eq_none (by omega)]

/-- One more store in memory changes no other cell. -/
theorem addMemory_held (w : World) (m : Memory) {cell : Cell}
    (h : (w.addMemory m).1.cell? ≠ some cell) : (w.addMemory m).2.held? cell = w.held? cell := by
  cases cell with
  | memory number =>
    have hne : number ≠ w.memories.length := fun heq => h (by rw [heq]; rfl)
    show (w.memories ++ [m])[number]?.map Held.memory = _
    rw [getElem?_append_singleton_ne w.memories m hne]
    rfl
  | scripted number => rfl

/-- One more store that fails on demand changes no other cell. -/
theorem addScripted_held (w : World) (collection : String) (s : Scripted) {cell : Cell}
    (h : (w.addScripted collection s).1.cell? ≠ some cell) :
    (w.addScripted collection s).2.held? cell = w.held? cell := by
  cases cell with
  | memory number => rfl
  | scripted number =>
    have hne : number ≠ w.scripted.length := fun heq => h (by rw [heq]; rfl)
    show (w.scripted ++ [s])[number]?.map Held.scripted = _
    rw [getElem?_append_singleton_ne w.scripted s hne]
    rfl

/-- A new store in memory lives in a cell that was not there. -/
theorem addMemory_cell {w : World} {m : Memory} {cell : Cell}
    (h : (w.addMemory m).1.cell? = some cell) :
    w.held? cell = none ∧ (w.addMemory m).2.held? cell = some (.memory m) := by
  cases h
  simp [held?, addMemory]

/-- A new store that fails on demand lives in a cell that was not
there. -/
theorem addScripted_cell {w : World} {collection : String} {s : Scripted} {cell : Cell}
    (h : (w.addScripted collection s).1.cell? = some cell) :
    w.held? cell = none ∧
      (w.addScripted collection s).2.held? cell = some (.scripted s) := by
  cases h
  simp [held?, addScripted]

/-! ### What is outside a place -/

/-- Between two states of the world nothing changed outside a place: no
other cell, and no other collection. -/
structure OnlyAt (p : Place) (w w' : World) : Prop where
  held : ∀ cell, p.cell? ≠ some cell → w'.held? cell = w.held? cell
  collections : ∀ name, (∀ client, p = .documents client → client.place.name ≠ name) →
    w'.documents.collection? name = w.documents.collection? name

theorem OnlyAt.refl (p : Place) (w : World) : w.OnlyAt p w :=
  ⟨fun _ _ => rfl, fun _ _ => rfl⟩

theorem OnlyAt.trans (h₁ : w₁.OnlyAt p w₂) (h₂ : w₂.OnlyAt p w₃) : w₁.OnlyAt p w₃ where
  held cell hcell := (h₂.held cell hcell).trans (h₁.held cell hcell)
  collections name hname := (h₂.collections name hname).trans (h₁.collections name hname)

/-- Another state of a store in memory changes its cell. -/
theorem onlyAt_setMemory (number : Nat) (w : World) (m : Memory) :
    w.OnlyAt (.memory number) (setMemory number w m) where
  held cell hcell := by
    cases cell with
    | memory other =>
      have hne : number ≠ other := fun heq => hcell (by rw [heq]; rfl)
      simp only [held?, setMemory, List.getElem?_set_ne hne]
    | scripted other => rfl
  collections _ _ := rfl

/-- Another state of a store that fails on demand changes its cell. -/
theorem onlyAt_setScript (number : Nat) (collection : String) (w : World) (s : Scripted) :
    w.OnlyAt (.scripted number collection) (setScript number w s) where
  held cell hcell := by
    cases cell with
    | memory other => rfl
    | scripted other =>
      have hne : number ≠ other := fun heq => hcell (by rw [heq]; rfl)
      simp only [held?, setScript, List.getElem?_set_ne hne]
  collections _ _ := rfl

/-- Another state of the document server changes the collection of a
client if only that differs. -/
theorem onlyAt_setDocuments {client : Documents.Client} {s : Documents.Server}
    (h : w.documents.OnlyIn client.place.name s) :
    w.OnlyAt (.documents client) (w.setDocuments s) where
  held cell _ := by cases cell <;> rfl
  collections name hname := h name (Ne.symm (hname client rfl))

/-- Another state of the table server changes no cell. -/
theorem setTables_held (w : World) (s : Tables.Server) (cell : Cell) :
    (w.setTables s).held? cell = w.held? cell := by
  cases cell <;> rfl

/-- Another state of the table server changes neither a cell nor a
collection. -/
theorem onlyAt_setTables (p : Place) (w : World) (s : Tables.Server) :
    w.OnlyAt p (w.setTables s) where
  held cell _ := w.setTables_held s cell
  collections _ _ := rfl

end World

namespace Place

/-- Every operation changes its own place and nothing else, whether it
succeeds or fails. -/
theorem perform_onlyAt (p : Place) (operation : Operation) (w : World) :
    w.OnlyAt p (p.store.perform operation w).2 := by
  cases p with
  | memory number =>
    rw [show (memory number).store.perform operation w = _ from
      Store.perform_within_eq (World.memory · number) (World.setMemory number) rfl]
    exact World.onlyAt_setMemory number w _
  | scripted number collection =>
    rw [show (scripted number collection).store.perform operation w = _ from
      Store.perform_within_eq (World.script · number) (World.setScript number) rfl]
    exact World.onlyAt_setScript number collection w _
  | documents client =>
    rw [show (documents client).store.perform operation w = _ from
      Store.perform_within_eq World.documents World.setDocuments rfl]
    exact World.onlyAt_setDocuments (client.perform_onlyIn operation w.documents)
  | table database size =>
    rw [show (table database size).store.perform operation w = _ from
      Store.perform_within_eq (World.database · database) (World.setDatabase database) rfl]
    exact World.onlyAt_setTables (.table database size) w _

end Place

namespace Seeder

/-- Seeding changes its own place and nothing else. -/
theorem seed_onlyAt (p : Place) (w : World) : w.OnlyAt p (seed p.store w).state := by
  rw [seed_state]
  exact p.perform_onlyAt (.replace fixtures) w

/-- Verifying changes its own place at most. -/
theorem verify_onlyAt (p : Place) (w : World) : w.OnlyAt p (verify p.store w).state := by
  rw [verify_state]
  exact p.perform_onlyAt .all w

end Seeder

/-! ### Opening a store -/

namespace World

variable {w : World}

/-- Opening a store changes the cells of no other store. -/
theorem openKind_held (kind : Option StoreKind) (url : String) {cell : Cell}
    (h : cell ≠ .memory w.memories.length) :
    (openKind kind url w).state.held? cell = w.held? cell := by
  unfold openKind
  split
  · unfold openDocuments
    split <;> rfl
  · unfold openTable
    have hsame := w.setTables_held (Tables.connect w.machine.user url w.tables).2 cell
    split <;> rename_i hrun <;> obtain ⟨_, hconnect, rfl⟩ := Access.within_eq.mp hrun <;>
      rwa [hconnect] at hsame
  · exact addMemory_held w _ fun heq => h (Option.some.inj heq).symm
  · rfl

/-- A place that was opened has no cell, or one that was not there and
holds a new store. -/
theorem openKind_cell (kind : Option StoreKind) {url : String} {place : Place}
    (hok : (openKind kind url w).result = .ok place) {cell : Cell}
    (hcell : place.cell? = some cell) :
    w.held? cell = none ∧
      (openKind kind url w).state.held? cell = some (.memory (.ofRecords [])) := by
  unfold openKind at hok ⊢
  split at hok
  · unfold openDocuments at hok
    split at hok <;> cases hok
    cases hcell
  · unfold openTable at hok
    split at hok <;> cases hok
    cases hcell
  · cases hok
    exact addMemory_cell hcell
  · cases hok

/-- Opening a store leaves the document server alone. -/
theorem openKind_documents (kind : Option StoreKind) (url : String) (w : World) :
    (openKind kind url w).state.documents = w.documents := by
  unfold openKind
  split
  · unfold openDocuments
    split <;> rfl
  · unfold openTable
    split <;> rename_i hrun <;> obtain ⟨_, _, rfl⟩ := Access.within_eq.mp hrun <;> rfl
  · rfl
  · rfl

/-- Opening a store by its URL leaves the document server alone. -/
theorem connect_documents (url : String) (w : World) :
    (w.connect url).state.documents = w.documents := by
  rw [connect, Outcome.after_state]
  exact openKind_documents (StoreKind.ofScheme? (scheme url)) url w

/-- Opening a store by its URL changes the cells of no other store. -/
theorem connect_held (url : String) {cell : Cell} (h : cell ≠ .memory w.memories.length) :
    (w.connect url).state.held? cell = w.held? cell := by
  rw [connect, Outcome.after_state]
  exact openKind_held (StoreKind.ofScheme? (scheme url)) url h

/-- A place that was opened by its URL has no cell, or one that was not
there and holds a new store. -/
theorem connect_cell {url : String} {place : Place} (hok : (w.connect url).result = .ok place)
    {cell : Cell} (hcell : place.cell? = some cell) :
    w.held? cell = none ∧ (w.connect url).state.held? cell = some (.memory (.ofRecords [])) := by
  rw [connect, Outcome.after_result] at hok
  rw [connect, Outcome.after_state]
  exact openKind_cell (StoreKind.ofScheme? (scheme url)) hok hcell

/-- Opening a memory URL makes an empty store. -/
theorem connect_memory {url : String} (h : scheme url = "memory") (w : World) :
    w.connect url = ⟨.ok (.memory w.memories.length),
      [⟨.debug, .connecting, "Opening " ++ scheme url ++ " store"⟩],
      (w.addMemory (.ofRecords [])).2⟩ := by
  have hkind : StoreKind.ofScheme? (scheme url) = some .memory := by
    rw [h]
    rfl
  rw [connect, hkind]
  rfl

end World

/-! ### Running the program -/

namespace Program

/-- Seeding and verifying change their own place and nothing else. -/
theorem seedAndVerify_onlyAt (p : Place) (w : World) :
    w.OnlyAt p (seedAndVerify p.store w).state := by
  unfold seedAndVerify
  have hseed := Seeder.seed_onlyAt p w
  refine Outcome.andThen_state ?_ fun _ _ => ?_ <;> rw [Outcome.mapError_state]
  · exact hseed
  have hverify := hseed.trans (Seeder.verify_onlyAt p (Seeder.seed p.store w).state)
  refine Outcome.andThen_state ?_ fun _ _ => ?_ <;> rw [Outcome.mapError_state]
  · exact hverify
  · exact hverify

/-- A run changes no store that fails on demand. -/
theorem run_scripted (config : Config) (w : World) (number : Nat) :
    (run config w).state.held? (.scripted number) = w.held? (.scripted number) := by
  have hopen : (w.connect config.databaseUrl).state.held? (.scripted number) =
      w.held? (.scripted number) := w.connect_held config.databaseUrl nofun
  unfold run
  refine Outcome.andThen_state
    (P := fun w' : World => w'.held? (.scripted number) = w.held? (.scripted number)) ?_
    fun place hplace => ?_ <;> rw [Outcome.mapError_state]
  · exact hopen
  rw [Outcome.after_state]
  -- The store that was opened is of another kind.
  have hcell : place.cell? ≠ some (.scripted number) := by
    intro hcell
    have hholds := (World.connect_cell (Outcome.mapError_eq_ok.mp hplace) hcell).2
    simp [World.held?] at hholds
  exact ((seedAndVerify_onlyAt place _).held (.scripted number) hcell).trans hopen

end Program

end Roster
