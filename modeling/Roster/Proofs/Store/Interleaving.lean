import Mathlib.Data.Fintype.Card
import Roster.Proofs.Employee.Order
import Roster.Proofs.Seeding

/-!
# `Roster.Proofs.Store.Interleaving`: several clients replace at once

Some clients share a store, and each of them replaces its records in two
steps. The steps of one client come in their order, but those of others
may come between them (`Interleaving`). What is kept in the end depends
on the last clear alone (`LastRound`): the batches inserted after it
stand, in that order. The client that cleared last inserts after it, so
its batch is among them, and no batch is there twice.

`Interleaving.lastRound` is the fact on schedules. It holds for every
way in which steps that succeed do to the store what they do to a plain
list; `Runs.contents` shows this for a store that replaces in two steps.
Clients that all insert the fixed records leave whole copies of them,
and verifying accepts exactly one copy (`verify_copies_isOk`).
-/

set_option autoImplicit false

namespace Roster.Store

variable {k : Nat} {α σ : Type}

/-! ### Schedules -/

/-- One of the two steps in which a client replaces. -/
inductive Turn (k : Nat) where
  | clear (client : Fin k)
  | insert (client : Fin k)
deriving DecidableEq

/-- What is done in a turn, with the batches of the clients. -/
def Turn.operation (batch : Fin k → List Employee) : Turn k → Operation
  | .clear _ => .clear
  | .insert client => .insert (batch client)

/-- The client that inserts in a turn. -/
def Turn.inserter? : Turn k → Option (Fin k)
  | .clear _ => none
  | .insert client => some client

/-- The clients that insert, in the order in which they do. -/
def inserters (schedule : List (Turn k)) : List (Fin k) :=
  schedule.filterMap Turn.inserter?

/-- Every client takes its two turns once, and in their order. -/
structure Interleaving (schedule : List (Turn k)) : Prop where
  once : ∀ turn, schedule.count turn = 1
  ordered : ∀ client, [Turn.clear client, Turn.insert client].Sublist schedule

/-- Exactly the batches that were inserted after the last clear are
kept, in the order in which they were. That of the client that cleared
last is among them, and none is there twice. -/
def LastRound (keep : Employee → α) (batch : Fin k → List Employee) (schedule : List (Turn k))
    (kept : List α) : Prop :=
  ∃ before client after,
    schedule = before ++ .clear client :: after ∧
    (∀ other, .clear other ∉ after) ∧
    kept = ((inserters after).flatMap batch).map keep ∧
    client ∈ inserters after ∧ (inserters after).Nodup

/-- Who inserts has a turn for it. -/
theorem mem_inserters {schedule : List (Turn k)} {client : Fin k} :
    client ∈ inserters schedule ↔ .insert client ∈ schedule := by
  constructor
  · intro h
    obtain ⟨turn, hturn, hclient⟩ := List.mem_filterMap.mp h
    cases turn with
    | clear other => cases hclient
    | insert other =>
      cases hclient
      exact hturn
  · intro h
    exact List.mem_filterMap.mpr ⟨.insert client, h, rfl⟩

/-- Where no turn comes twice, no client inserts twice. -/
theorem nodup_inserters {schedule : List (Turn k)} (h : schedule.Nodup) :
    (inserters schedule).Nodup := by
  refine h.filterMap ?_
  intro turn other client hturn hother
  cases turn <;> cases other <;> simp_all [Turn.inserter?]

/-- A schedule with a clear has a last one. -/
theorem exists_last_clear {schedule : List (Turn k)} {client : Fin k}
    (h : .clear client ∈ schedule) :
    ∃ before last after, schedule = before ++ .clear last :: after ∧
      ∀ other, .clear other ∉ after := by
  induction schedule generalizing client with
  | nil => cases h
  | cons turn rest ih =>
    -- The last clear is the last one of the rest, if there is one there.
    by_cases hrest : ∃ other, Turn.clear other ∈ rest
    · obtain ⟨other, hother⟩ := hrest
      obtain ⟨before, last, after, rfl, hlast⟩ := ih hother
      exact ⟨turn :: before, last, after, rfl, hlast⟩
    · have hnone : ∀ other, Turn.clear other ∉ rest := fun other hother => hrest ⟨other, hother⟩
      rcases List.mem_cons.mp h with rfl | hmem
      · exact ⟨[], client, rest, rfl, hnone⟩
      · exact absurd hmem (hnone client)

/-- Turns without a clear add their batches. -/
theorem foldl_leave_of_inserts (keep : Employee → α) (batch : Fin k → List Employee)
    {turns : List (Turn k)} (h : ∀ other, Turn.clear other ∉ turns) (kept : List α) :
    turns.foldl (fun kept turn => (turn.operation batch).leave keep kept) kept =
      kept ++ ((inserters turns).flatMap batch).map keep := by
  induction turns generalizing kept with
  | nil => simp [inserters]
  | cons turn rest ih =>
    have hrest : ∀ other, Turn.clear other ∉ rest := fun other hother =>
      h other (List.mem_cons_of_mem _ hother)
    cases turn with
    | clear client => exact absurd List.mem_cons_self (h client)
    | insert client =>
      rw [List.foldl_cons, ih hrest]
      show (kept ++ (batch client).map keep) ++ _ = kept ++ ((client :: inserters rest).flatMap
        batch).map keep
      rw [List.flatMap_cons, List.map_append, List.append_assoc]

/-- What stands after an interleaving is its last round, whatever was
kept before it. -/
theorem Interleaving.lastRound {schedule : List (Turn k)} (h : Interleaving schedule)
    (hk : 0 < k) (keep : Employee → α) (batch : Fin k → List Employee) (kept : List α) :
    LastRound keep batch schedule
      (schedule.foldl (fun kept turn => (turn.operation batch).leave keep kept) kept) := by
  have hnodup : schedule.Nodup :=
    List.nodup_iff_count_le_one.mpr fun turn => Nat.le_of_eq (h.once turn)
  have hsome : Turn.clear ⟨0, hk⟩ ∈ schedule :=
    List.count_pos_iff.mp (h.once (.clear ⟨0, hk⟩) ▸ Nat.one_pos)
  obtain ⟨before, client, after, rfl, hlast⟩ := exists_last_clear hsome
  refine ⟨before, client, after, rfl, hlast, ?_, ?_, ?_⟩
  · -- The clear forgets all that came before.
    rw [List.foldl_append, List.foldl_cons]
    exact (foldl_leave_of_inserts keep batch hlast []).trans (List.nil_append _)
  · -- The client that cleared last did not clear before, so its insert is
    -- still to come.
    have hbefore : Turn.clear client ∉ before := by
      intro hmem
      exact (List.nodup_append.mp hnodup).2.2 _ hmem _ List.mem_cons_self rfl
    obtain ⟨early, late, hsplit, hearly, hlate⟩ :=
      List.sublist_append_iff.mp (h.ordered client)
    cases early with
    | cons first rest =>
      obtain ⟨rfl, _⟩ := List.cons.inj hsplit
      exact absurd (hearly.subset List.mem_cons_self) hbefore
    | nil =>
      obtain rfl : [Turn.clear client, Turn.insert client] = late := hsplit
      have hmem := hlate.subset (List.mem_cons_of_mem _ List.mem_cons_self)
      rcases List.mem_cons.mp hmem with heq | hmem
      · cases heq
      · exact mem_inserters.mpr hmem
  · exact nodup_inserters (List.nodup_append.mp hnodup).2.1.of_cons

/-- In the last round there are between one and all of the batches. -/
theorem LastRound.count {keep : Employee → α} {batch : Fin k → List Employee}
    {schedule : List (Turn k)} {kept : List α} (h : LastRound keep batch schedule kept) :
    ∃ clients : List (Fin k), 1 ≤ clients.length ∧ clients.length ≤ k ∧
      kept = (clients.flatMap batch).map keep := by
  obtain ⟨_, client, after, _, _, hkept, hmem, hnodup⟩ := h
  refine ⟨inserters after, List.length_pos_of_mem hmem, ?_, hkept⟩
  have hcard := hnodup.length_le_card
  rwa [Fintype.card_fin] at hcard

/-! ### Copies of the fixed records -/

/-- Some copies of the fixed records, one after another. -/
def copies (m : Nat) : List Employee :=
  (List.replicate m fixtures).flatten

/-- Several copies are no permutation of one. -/
theorem copies_perm_fixtures {m : Nat} : (copies m).Perm fixtures ↔ m = 1 := by
  constructor
  · intro h
    have hlength : m * 3 = 3 := by
      simpa [copies, fixtures, fixtureNames] using h.length_eq
    omega
  · rintro rfl
    simp [copies]

/-- If all batches are the fixed records, the last round is copies of
them. -/
theorem LastRound.copies {keep : Employee → α} {batch : Fin k → List Employee}
    {schedule : List (Turn k)} {kept : List α} (h : LastRound keep batch schedule kept)
    (hbatch : ∀ client, batch client = fixtures) :
    ∃ m, 1 ≤ m ∧ m ≤ k ∧ kept = (Store.copies m).map keep := by
  obtain ⟨clients, hpos, hle, hkept⟩ := h.count
  refine ⟨clients.length, hpos, hle, ?_⟩
  rw [hkept, Store.copies, List.flatMap_def, funext hbatch, List.map_const']

/-- If a listing shows what is kept, verifying accepts one copy of the
fixed records and no more. -/
theorem verify_copies_isOk {store : Store σ} {contents : σ → List α} {keep : Employee → α}
    {s : σ} {m : Nat} (hshows : Seeder.Shows store contents keep s)
    (hkept : contents s = (copies m).map keep) :
    (Seeder.verify store s).result.isOk = true ↔ m = 1 := by
  have hall := hshows (copies m) hkept
  rw [← copies_perm_fixtures, ← Seeder.matchesFixtures_iff]
  unfold Seeder.verify
  cases hrun : store.all s with
  | mk result s' =>
    rw [hrun] at hall
    cases hall
    simp only
    cases hmatches : Seeder.matchesFixtures (copies m) <;> simp [Except.isOk, Except.toBool]

/-- Between one and `k` copies of the fixed records are kept, and
verifying accepts them exactly if it is one copy. -/
def KeepsCopies (k : Nat) (store : Store σ) (contents : σ → List α) (keep : Employee → α)
    (listsFreely : σ → Prop) (s : σ) : Prop :=
  ∃ m, 1 ≤ m ∧ m ≤ k ∧ contents s = (copies m).map keep ∧
    (listsFreely s → ((Seeder.verify store s).result.isOk = true ↔ m = 1))

/-- A last round of fixed records is some copies of them. -/
theorem LastRound.keepsCopies {store : Store σ} {contents : σ → List α} {keep : Employee → α}
    {listsFreely : σ → Prop} {batch : Fin k → List Employee} {schedule : List (Turn k)} {s : σ}
    (h : LastRound keep batch schedule (contents s)) (hbatch : ∀ client, batch client = fixtures)
    (hshows : listsFreely s → Seeder.Shows store contents keep s) :
    KeepsCopies k store contents keep listsFreely s := by
  obtain ⟨m, hpos, hle, hkept⟩ := h.copies hbatch
  exact ⟨m, hpos, hle, hkept, fun hfree => verify_copies_isOk (hshows hfree) hkept⟩

/-! ### Runs -/

/-- Operations succeed one after another. Where one of them clears, the
store is candid: it says "there was nothing to clear" only if there was
nothing. -/
inductive Runs (store : Store σ) (candid : σ → Prop) : σ → List Operation → σ → Prop where
  | nil (s : σ) : Runs store candid s [] s
  | cons {s middle s' : σ} {operation : Operation} {reply : Reply} {rest : List Operation}
      (hcandid : operation = .clear → candid s)
      (hrun : store.perform operation s = (.ok reply, middle))
      (hrest : Runs store candid middle rest s') : Runs store candid s (operation :: rest) s'

/-- A turn that succeeds at a store that replaces in two steps does what
it does to a plain list. -/
theorem TwoStep.turn {store : Store σ} {candid : σ → Prop} {contents : σ → List α}
    {keep : Employee → α} (h : store.TwoStep candid contents keep)
    (batch : Fin k → List Employee) (turn : Turn k) {s s' : σ} {reply : Reply}
    (hcandid : turn.operation batch = .clear → candid s)
    (hrun : store.perform (turn.operation batch) s = (.ok reply, s')) :
    contents s' = (turn.operation batch).leave keep (contents s) := by
  cases turn with
  | clear client =>
    obtain ⟨_, hclear, _⟩ := Access.map_eq_ok.mp hrun
    exact h.clear_ok (hcandid rfl) hclear
  | insert client =>
    obtain ⟨_, hinsert, _⟩ := Access.map_eq_ok.mp hrun
    exact (h.insert_ok hinsert).2

/-- Turns that succeed at a store that replaces in two steps do what they
do to a plain list. -/
theorem Runs.contents {store : Store σ} {candid : σ → Prop} {contents : σ → List α}
    {keep : Employee → α} (hstore : store.TwoStep candid contents keep)
    (batch : Fin k → List Employee) (schedule : List (Turn k)) {s s' : σ}
    (h : store.Runs candid s (schedule.map (Turn.operation batch)) s') :
    contents s' =
      schedule.foldl (fun kept turn => (turn.operation batch).leave keep kept) (contents s) := by
  induction schedule generalizing s with
  | nil =>
    cases h
    rfl
  | cons turn rest ih =>
    cases h with
    | cons hcandid hrun hrest =>
      rw [List.foldl_cons, ← hstore.turn batch turn hcandid hrun]
      exact ih hrest

end Roster.Store
