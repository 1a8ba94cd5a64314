import Roster.Proofs.Session.Atomicity
import Roster.Proofs.Store.Interleaving

/-!
# `Roster.Proofs.Session.Interleaving`: several names replace at once

In a session the clients of a store are its names: clones, seeders, or
handles that were made for the same collection. `interleaved_replaces_end`
says what they leave when their two steps of replacing mix, and what they
leave when each of them replaces in one step.

All steps are taken to succeed. A document server that answers a clear
with "no such collection" is taken to tell the truth, as everywhere
(`Place.Candid`); nothing is asked of the other faults that wait.
`succeeds_follows` is the step: what succeeds does to what is kept what
it does to a plain list. `contents_turns` is the run.
-/

set_option autoImplicit false

namespace Roster

open Store (Operation Turn Interleaving LastRound KeepsCopies)

/-- The step of a session in which a client takes its turn. -/
def Store.Turn.step {k : Nat} (name : Fin k → String) (batch : Fin k → List Employee) :
    Turn k → Step
  | .clear client => .act (name client) (.store .clear)
  | .insert client => .act (name client) (.store (.insert (batch client)))

namespace Place

variable {p : Place} {w : World}

/-- In a sound world the answers at a place tell what was done there, if
its server is candid. -/
theorem ready_of_candid (hin : p.InWorld w) (htables : ∀ name, (w.database name).Sound)
    (h : p.Candid w) : p.Ready w := by
  cases p with
  | memory number => exact hin
  | scripted number collection => exact hin
  | documents client => exact h
  | table database size => exact htables database

/-- At every place in a sound world an insert that succeeds adds its
batch, whether the server is candid or not. -/
theorem insert_follows (hin : p.InWorld w) (htables : ∀ name, (w.database name).Sound)
    (batch : List Employee) : p.store.Follows p.contents p.keep (.insert batch) w := by
  cases p with
  | memory number => exact store_follows (p := .memory number) hin _
  | scripted number collection => exact store_follows (p := .scripted number collection) hin _
  | documents client =>
    intro reply w' hrun
    obtain ⟨s, hact, rfl⟩ := Store.of_perform_within World.documents World.setDocuments hrun
    obtain ⟨_, hinsert, _⟩ := Access.map_eq_ok.mp hact
    exact (Documents.Client.insert_eq_ok hinsert).2
  | table database size =>
    exact store_follows (p := .table database size) (htables database) _

/-- A store that can be reached shows what it keeps, unless something waits
for a listing. -/
theorem Serves.shows (h : p.Serves w) (hfree : p.ListsFreely w) :
    Seeder.Shows p.store p.contents p.keep w :=
  fun _ hkept => h.all hfree hkept

end Place

namespace Session

variable {s : Session} {p : Place} {k : Nat} {name : Fin k → String}
  {batch : Fin k → List Employee}

/-- An operation through a name for a place succeeds. If it clears, the
server there is candid. -/
inductive Succeeds (p : Place) (s : Session) : Step → Prop where
  | store (name : String) (operation : Operation) (handle : Handle) (value : Value)
      (hname : s.handle? name = some handle) (hplace : handle.place = p)
      (hcandid : operation = .clear → p.Candid s.world)
      (hok : (s.step (.act name (.store operation))).1.result = .ok value) :
      Succeeds p s (.act name (.store operation))

/-- Forgetting what the servers received takes no store out of service. -/
theorem serves_clearReceived (h : p.Serves s.world) : p.Serves s.clearReceived.world := by
  cases p with
  | table database size =>
    show (s.clearReceived.world.database database).table.isSome
    rw [database_clearReceived]
    exact h
  | memory number => exact h
  | scripted number collection => exact h
  | documents client => exact h

/-- What was received has no part in the answer to a drop. -/
theorem drop_clearReceived (s : Session) (writers : Option Documents.Writers)
    (collection : String) :
    (s.clearReceived.world.documents.drop writers collection).1 =
      (s.world.documents.drop writers collection).1 := by
  simp only [clearReceived, withWorld, Documents.Server.drop, Documents.Server.strike,
    Documents.Server.receive]
  cases s.world.documents.faults.find? (·.kind = .drop) with
  | some fault => rfl
  | none =>
    simp only
    cases writers.bind s.world.documents.declinesWriters with
    | some code => rfl
    | none =>
      simp only [Option.elim_none, apply_ite Prod.fst]
      rfl

/-- Forgetting what the servers received makes none of them less
candid. -/
theorem candid_clearReceived (h : p.Candid s.world) : p.Candid s.clearReceived.world := by
  cases p with
  | documents client => exact fun hanswer => h (s.drop_clearReceived _ _ ▸ hanswer)
  | memory number => trivial
  | scripted number collection => trivial
  | table database size => trivial

/-- A step that succeeds is an operation of the store that does. -/
theorem Succeeds.performed {name : String} {operation : Operation} (hs : s.Sound)
    (h : Succeeds p s (.act name (.store operation))) :
    p.InWorld s.clearReceived.world ∧
    (operation = .clear → p.Candid s.clearReceived.world) ∧
    ∃ reply, p.store.perform operation s.clearReceived.world =
      (.ok reply, (s.step (.act name (.store operation))).2.world) := by
  cases h with
  | store _ _ handle value hname hplace hcandid hok =>
    subst hplace
    obtain ⟨hresult, hstate⟩ := step_act (.store operation) hname
    have hperform : s.clearReceived.perform handle (.store operation) =
        s.clearReceived.ofAccess .ofReply (handle.place.store.perform operation) := rfl
    refine ⟨(clearReceived_sound hs).place hname, fun hclear => candid_clearReceived
      (hcandid hclear), ?_⟩
    rw [hresult, hperform] at hok
    rw [hstate, hperform]
    unfold ofAccess ofWorld at hok ⊢
    cases hrun : handle.place.store.perform operation s.clearReceived.world with
    | mk result w =>
      rw [hrun] at hok
      cases result with
      | error e => cases hok
      | ok reply => exact ⟨reply, rfl⟩

/-- A turn that succeeds does to what is kept what it does to a plain
list. -/
theorem succeeds_follows (hs : s.Sound) (turn : Turn k)
    (h : Succeeds p s (turn.step name batch)) :
    p.contents (s.step (turn.step name batch)).2.world =
      (turn.operation batch).leave p.keep (p.contents s.world) := by
  rw [← contents_clearReceived p s]
  have htables := (clearReceived_sound hs).tables
  cases turn with
  | clear client =>
    obtain ⟨hin, hcandid, reply, hrun⟩ := h.performed hs
    exact Place.store_follows (Place.ready_of_candid hin htables (hcandid rfl)) .clear
      reply _ hrun
  | insert client =>
    obtain ⟨hin, _, reply, hrun⟩ := h.performed hs
    exact Place.insert_follows hin htables (batch client) reply _ hrun

/-- Turns that succeed do to what is kept what they do to a plain
list. -/
theorem contents_turns (schedule : List (Turn k)) (hs : s.Sound)
    (hrun : s.Run (Succeeds p) (schedule.map (Turn.step name batch))) :
    p.contents (s.after (schedule.map (Turn.step name batch))).world =
      schedule.foldl (fun kept turn => (turn.operation batch).leave p.keep kept)
        (p.contents s.world) := by
  induction schedule generalizing s with
  | nil => rfl
  | cons turn rest ih =>
    obtain ⟨hturn, hrest⟩ := hrun
    rw [List.foldl_cons, ← succeeds_follows hs turn hturn]
    exact ih (step_sound hs _) hrest

/-- A store that could be reached, or that is cleared in one of the turns,
can be reached after them. -/
theorem serves_turns (schedule : List (Turn k)) (hs : s.Sound)
    (hrun : s.Run (Succeeds p) (schedule.map (Turn.step name batch)))
    (h : p.Serves s.world ∨ ∃ client, .clear client ∈ schedule) :
    p.Serves (s.after (schedule.map (Turn.step name batch))).world := by
  induction schedule generalizing s with
  | nil =>
    rcases h with h | ⟨client, hclient⟩
    · exact h
    · cases hclient
  | cons turn rest ih =>
    obtain ⟨hturn, hrest⟩ := hrun
    refine ih (step_sound hs _) hrest ?_
    cases turn with
    | clear client =>
      obtain ⟨hin, hcandid, _, hperform⟩ := hturn.performed hs
      exact .inl (Place.serves_of_clear hin (hcandid rfl) hperform)
    | insert client =>
      obtain ⟨hin, _, _, hperform⟩ := hturn.performed hs
      rcases h with h | ⟨other, hother⟩
      · exact .inl ((serves_clearReceived h).insert hin hperform)
      · rcases List.mem_cons.mp hother with heq | hmem
        · cases heq
        · exact .inr ⟨other, hmem⟩

/-- A replace in one step that succeeds leaves exactly its batch. -/
theorem succeeds_replaces {name : String} {records : List Employee} (hs : s.Sound)
    (hatomic : p.IsAtomic) (h : Succeeds p s (.act name (.store (.replace records)))) :
    p.contents (s.step (.act name (.store (.replace records)))).2.world = records.map p.keep := by
  obtain ⟨hin, _, reply, hrun⟩ := h.performed hs
  exact Place.store_follows ((clearReceived_sound hs).ready hatomic hin) (.replace records)
    reply _ hrun

/-- Clients that replace in two steps each, in whatever way these mix,
leave the batches of the last round, and whole copies of the fixed
records if these are what all of them insert. This holds at every place
of a session and in every store that replaces in two steps. Where a
replace is one step, the last one decides. -/
theorem interleaved_replaces_end {k : Nat} (hk : 0 < k) (batch : Fin k → List Employee) :
    (∀ (s : Session) (p : Place) (name : Fin k → String) (schedule : List (Turn k)),
      s.Reachable → Interleaving schedule →
      s.Run (Succeeds p) (schedule.map (Turn.step name batch)) →
        LastRound p.keep batch schedule
          (p.contents (s.after (schedule.map (Turn.step name batch))).world) ∧
        ((∀ client, batch client = fixtures) →
          KeepsCopies k p.store p.contents p.keep (fun w => p.ListsFreely w)
            (s.after (schedule.map (Turn.step name batch))).world)) ∧
    (∀ {σ α : Type} (store : Store σ) (candid : σ → Prop) (contents : σ → List α)
      (keep : Employee → α) (schedule : List (Turn k)) (s s' : σ),
      store.TwoStep candid contents keep → Interleaving schedule →
      store.Runs candid s (schedule.map (Turn.operation batch)) s' →
        LastRound keep batch schedule (contents s') ∧
        ((∀ client, batch client = fixtures) →
          KeepsCopies k store contents keep (Seeder.Shows store contents keep) s')) ∧
    ∀ (s : Session) (p : Place) (name : Fin k → String) (order : List (Fin k)),
      s.Reachable → p.IsAtomic → (∀ client, order.count client = 1) →
      s.Run (Succeeds p) (order.map fun client =>
        .act (name client) (.store (.replace (batch client)))) →
        ∃ last, order.getLast? = some last ∧
          p.contents (s.after (order.map fun client =>
            .act (name client) (.store (.replace (batch client))))).world =
            (batch last).map p.keep := by
  refine ⟨fun s p name schedule hreachable hschedule hrun => ?_,
    fun store candid contents keep schedule s s' hstore hschedule hruns => ?_,
    fun s p name order hreachable hatomic honce hrun => ?_⟩
  · have hs := reachable_sound hreachable
    have hround := hschedule.lastRound hk p.keep batch (p.contents s.world)
    rw [← contents_turns schedule hs hrun] at hround
    have hclear : Turn.clear ⟨0, hk⟩ ∈ schedule :=
      List.count_pos_iff.mp (hschedule.once (.clear ⟨0, hk⟩) ▸ Nat.one_pos)
    have hserves := serves_turns schedule hs hrun (.inr ⟨_, hclear⟩)
    exact ⟨hround, fun hbatch => hround.keepsCopies hbatch hserves.shows⟩
  · have hround := hschedule.lastRound hk keep batch (contents s)
    rw [← hruns.contents hstore batch schedule] at hround
    exact ⟨hround, fun hbatch => hround.keepsCopies hbatch id⟩
  · have hmem : (⟨0, hk⟩ : Fin k) ∈ order :=
      List.count_pos_iff.mp (honce ⟨0, hk⟩ ▸ Nat.one_pos)
    obtain ⟨early, last, rfl⟩ :=
      (List.eq_nil_or_concat order).resolve_left (List.ne_nil_of_mem hmem)
    rw [List.concat_eq_append] at hrun ⊢
    refine ⟨last, List.getLast?_concat, ?_⟩
    simp only [List.map_append, List.map_singleton] at hrun ⊢
    rw [after_append]
    exact succeeds_replaces (after_sound (reachable_sound hreachable) _) hatomic hrun.last

/-- A session in which a collection with one document and a store in
memory with one record have two names each. -/
def twoClients : Session :=
  (start { idleTables with documents := .empty "localhost:27017" true }).after
    [.putDocuments ⟨"test", "employees"⟩ [Documents.Document.ofEmployee ⟨"Ada", "Byron"⟩],
     .documents "documents-0" ⟨"test", "employees"⟩, .clone "documents-0" "documents-1",
     .memory "memory-0" [⟨"Ada", "Byron"⟩], .clone "memory-0" "memory-1"]

/-- The place of the collection. -/
def sharedPlace : Place :=
  .documents ⟨⟨"test", "employees"⟩, true, .usual⟩

/-- The names of the collection. -/
def collectionName (client : Fin 2) : String :=
  if client = 0 then "documents-0" else "documents-1"

/-- The names of the store in memory. -/
def memoryName (client : Fin 2) : String :=
  if client = 0 then "memory-0" else "memory-1"

/-- Both clients clear before one of them inserts. -/
def bothClear : List (Turn 2) :=
  [.clear 0, .clear 1, .insert 1, .insert 0]

/-- Both clients of the collection have seeded it, and verifying does not
accept what they left. One after the other, clients that replace the
store in memory leave the batch of the last. -/
theorem twoClients_end :
    KeepsCopies 2 sharedPlace.store sharedPlace.contents sharedPlace.keep
      (fun w => sharedPlace.ListsFreely w)
      (twoClients.after (bothClear.map (Turn.step collectionName fun _ => fixtures))).world ∧
    (Seeder.verify sharedPlace.store (twoClients.after
      (bothClear.map (Turn.step collectionName fun _ => fixtures))).world).result.isOk = false ∧
    (∃ s', (Scripted.store "staff").Runs (fun _ => True) (.ofRecords [⟨"Ada", "Byron"⟩])
        (bothClear.map (Turn.operation fun _ => fixtures)) s' ∧
      LastRound id (fun _ => fixtures) bothClear s'.records) ∧
    (Place.memory 0).contents (twoClients.after (([1, 0] : List (Fin 2)).map fun client =>
        .act (memoryName client) (.store (.replace fixtures)))).world = fixtures.map id := by
  have hreachable : twoClients.Reachable :=
    ⟨{ idleTables with documents := .empty "localhost:27017" true }, _,
      ⟨rfl, rfl, fresh_idleTables.tables⟩, rfl⟩
  have hschedule : Interleaving bothClear := by
    refine ⟨?_, by decide⟩
    rintro (client | client) <;> revert client <;> decide
  obtain ⟨hsession, hstore, hatomic⟩ :=
    interleaved_replaces_end (k := 2) (by decide) fun _ => fixtures
  have hrun : twoClients.Run (Succeeds sharedPlace)
      (bothClear.map (Turn.step collectionName fun _ => fixtures)) := by
    refine ⟨.store _ _ ⟨sharedPlace, .store, false⟩ .unit rfl rfl (fun _ => ?_) rfl,
      .store _ _ ⟨sharedPlace, .store, false⟩ .unit rfl rfl (fun _ _ => rfl) rfl,
      .store _ _ ⟨sharedPlace, .store, false⟩ (.count 3) rfl rfl nofun rfl,
      .store _ _ ⟨sharedPlace, .store, false⟩ (.count 3) rfl rfl nofun rfl, trivial⟩
    intro hanswer
    cases hanswer
  have hcopies := (hsession twoClients sharedPlace _ bothClear hreachable hschedule hrun).2
    fun _ => rfl
  refine ⟨hcopies, ?_, ?_, ?_⟩
  · obtain ⟨m, _, _, hkept, hverify⟩ := hcopies
    have hlength := congrArg List.length hkept
    rw [List.length_map] at hlength
    refine Bool.eq_false_iff.mpr fun hok => ?_
    -- There are six documents, and one copy has three records.
    rw [(hverify (And.intro (fun _ hmem => nomatch hmem) rfl)).mp hok] at hlength
    exact absurd (show (6 : Nat) = 3 from hlength) (by decide)
  · have hruns : (Scripted.store "staff").Runs (fun _ => True) (.ofRecords [⟨"Ada", "Byron"⟩])
        (bothClear.map (Turn.operation fun _ => fixtures)) (.ofRecords (fixtures ++ fixtures)) :=
      .cons (fun _ => trivial) rfl (.cons (fun _ => trivial) rfl
        (.cons (fun _ => trivial) rfl (.cons (fun _ => trivial) rfl (.nil _))))
    exact ⟨_, hruns, (hstore _ _ _ _ bothClear _ _ (Scripted.store_twoStep "staff") hschedule
      hruns).1⟩
  · obtain ⟨_, _, hkept⟩ := hatomic twoClients (.memory 0) memoryName [1, 0] hreachable trivial
      (by decide)
      ⟨.store _ _ ⟨.memory 0, .store, true⟩ (.count 3) rfl rfl nofun rfl,
        .store _ _ ⟨.memory 0, .store, true⟩ (.count 3) rfl rfl nofun rfl, trivial⟩
    exact hkept

end Session

end Roster
