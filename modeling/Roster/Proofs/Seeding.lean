import Mathlib.Logic.Relation
import Roster.Proofs.Place
import Roster.Seeder

/-!
# `Roster.Proofs.Seeding`: seeding reaches the fixed records

Seeding is one replace (`replace_of_seed_ok`, `replace_of_seed_error`),
so what it leaves depends on what a replace leaves and not on what was
there before. What was there may be unfit for listing: documents that
are no records, or rows with a null for a name.

`LeavesFixtures` states what seeding promises: if it succeeds, the fixed
records and nothing else are kept, verifying finds them unless a fault
strikes it, and seeding again changes nothing. If it fails, the failure
is the one of the replace. `seed_leavesFixtures` proves this for every
place in the world and for every store that replaces in two steps.

A document server that answers "no such collection" without reason would
make a seed succeed over old documents. So the servers are taken to be
candid, and nothing else is asked of the faults that wait.
-/

set_option autoImplicit false

namespace Roster.Seeder

open Relation (ReflTransGen)

variable {σ α : Type} {store : Store σ} {s s' : σ}

/-! ### Seeding is replacing -/

/-- A seed that succeeds is a replace that succeeded. -/
theorem replace_of_seed_ok {n : Nat} (h : (seed store s).result = .ok n) :
    store.replace fixtures s = (.ok n, (seed store s).state) := by
  unfold seed at h ⊢
  cases hrun : store.replace fixtures s with
  | mk result after =>
    rw [hrun] at h
    cases result <;> cases h
    rfl

/-- A seed that fails wraps the failure of its replace. -/
theorem replace_of_seed_error {e : SeedError} (h : (seed store s).result = .error e) :
    ∃ cause, (store.replace fixtures s).1 = .error cause ∧ e = .store cause := by
  unfold seed at h
  cases hrun : store.replace fixtures s with
  | mk result after =>
    rw [hrun] at h
    cases result <;> cases h
    exact ⟨_, rfl, rfl⟩

/-- Seeding leaves the state that its replace leaves. -/
theorem seed_state (store : Store σ) (s : σ) :
    (seed store s).state = (store.replace fixtures s).2 := by
  unfold seed
  cases store.replace fixtures s with
  | mk result after => cases result <;> rfl

/-- Seeding succeeds if its replace does. -/
theorem seed_isOk (store : Store σ) (s : σ) :
    (seed store s).result.isOk = (store.replace fixtures s).1.isOk := by
  unfold seed
  cases store.replace fixtures s with
  | mk result after => cases result <;> rfl

/-- Verifying leaves the state that its listing leaves. -/
theorem verify_state (store : Store σ) (s : σ) :
    (verify store s).state = (store.all s).2 := by
  unfold verify
  cases store.all s with
  | mk result after =>
    cases result with
    | error _ => rfl
    | ok found =>
      show Outcome.state (if matchesFixtures found then _ else _) = _
      split <;> rfl

/-- A listing of the fixed records in their order is verified. -/
theorem verify_of_all (h : (store.all s).1 = .ok fixtures) :
    (verify store s).result = .ok fixtures := by
  unfold verify
  cases hrun : store.all s with
  | mk result after =>
    rw [hrun] at h
    cases h
    simp [matchesFixtures]

/-! ### What seeding leaves -/

/-- A seed of a candid store that succeeds leads from one state to the
next. -/
def Reseeds (store : Store σ) (candid : σ → Prop) (s s' : σ) : Prop :=
  candid s ∧ (∃ n, (seed store s).result = .ok n) ∧ s' = (seed store s).state

/-- What seeding from a state promises. -/
structure LeavesFixtures (store : Store σ) (contents : σ → List α) (keep : Employee → α)
    (candid listsFreely : σ → Prop) (s : σ) : Prop where
  /-- The answer is how many fixed records there are. -/
  count : ∀ n, (seed store s).result = .ok n → n = 3
  /-- The fixed records are kept, in their order, and nothing else. -/
  kept : ∀ n, (seed store s).result = .ok n →
    contents (seed store s).state = fixtures.map keep
  /-- Verifying then finds the fixed records, in their order. -/
  verified : ∀ n, (seed store s).result = .ok n → listsFreely (seed store s).state →
    (verify store (seed store s).state).result = .ok fixtures
  /-- However often seeding succeeds again, the same is kept. -/
  again : ∀ n s', (seed store s).result = .ok n →
    ReflTransGen (Reseeds store candid) (seed store s).state s' →
    contents s' = fixtures.map keep
  /-- A failure is the failure of the replace. -/
  failed : ∀ e, (seed store s).result = .error e →
    ∃ cause, (store.replace fixtures s).1 = .error cause ∧ e = .store cause

/-- Whether a listing shows the records that are kept. -/
def Shows (store : Store σ) (contents : σ → List α) (keep : Employee → α) (s : σ) : Prop :=
  ∀ records, contents s = records.map keep → (store.all s).1 = .ok records

section
variable {contents : σ → List α} {keep : Employee → α} {candid listsFreely : σ → Prop}

/-- Seeds that succeed lead from states with the fixed records to states
with the fixed records. -/
theorem kept_of_reseeds {inv : σ → Prop}
    (hreplaces : ∀ s, inv s → candid s → store.Replaces contents keep s)
    (hinv : ∀ s, inv s → inv (store.replace fixtures s).2) (hs : inv s)
    (hkept : contents s = fixtures.map keep)
    (hsteps : ReflTransGen (Reseeds store candid) s s') :
    inv s' ∧ contents s' = fixtures.map keep := by
  -- Each seed starts over, so of the step before only `inv` is needed.
  induction hsteps with
  | refl => exact ⟨hs, hkept⟩
  | tail _ hstep ih =>
    obtain ⟨hcandid, ⟨n, hok⟩, rfl⟩ := hstep
    refine ⟨?_, (hreplaces _ ih.1 hcandid fixtures n _ (replace_of_seed_ok hok)).2⟩
    rw [seed_state]
    exact hinv _ ih.1

/-- Seeding leaves the fixed records if a replace leaves its batch. The
invariant `inv` is what every replace keeps. -/
theorem leavesFixtures_of_replaces (inv : σ → Prop)
    (hreplaces : ∀ s, inv s → candid s → store.Replaces contents keep s)
    (hinv : ∀ s, inv s → inv (store.replace fixtures s).2)
    (hall : ∀ s s' n, inv s → candid s → store.replace fixtures s = (.ok n, s') →
      listsFreely s' → (store.all s').1 = .ok fixtures)
    (hs : inv s) (hcandid : candid s) :
    LeavesFixtures store contents keep candid listsFreely s where
  count n hok := (hreplaces s hs hcandid fixtures n _ (replace_of_seed_ok hok)).1
  kept n hok := (hreplaces s hs hcandid fixtures n _ (replace_of_seed_ok hok)).2
  verified n hok hfree :=
    verify_of_all (hall s _ n hs hcandid (replace_of_seed_ok hok) hfree)
  again n s' hok hsteps := by
    have hkept := (hreplaces s hs hcandid fixtures n _ (replace_of_seed_ok hok)).2
    have hafter : inv (seed store s).state := by
      rw [seed_state]
      exact hinv s hs
    exact (kept_of_reseeds hreplaces hinv hafter hkept hsteps).2
  failed _ herror := replace_of_seed_error herror

end

/-- Seeding reaches the fixed records from every state, at every place in
the world and in every store that replaces in two steps. -/
theorem seed_leavesFixtures :
    (∀ (p : Place) (w : World), p.InWorld w → p.Candid w →
      LeavesFixtures p.store p.contents p.keep (fun w => p.Candid w)
        (fun w => p.ListsFreely w) w) ∧
    ∀ {σ α : Type} (store : Store σ) (candid : σ → Prop) (contents : σ → List α)
      (keep : Employee → α), store.TwoStep candid contents keep → ∀ s, candid s →
        LeavesFixtures store contents keep candid (Shows store contents keep) s := by
  refine ⟨fun p w hin hcandid => ?_, fun store candid contents keep hstore s hs => ?_⟩
  · refine leavesFixtures_of_replaces (fun w => p.InWorld w)
      (fun _ => Place.store_replaces) ?_ ?_ hin hcandid
    · intro w hin
      exact hin.of_grows (p.perform_grows (.replace fixtures) w)
    · intro w w' n hin hcandid hrun hfree
      exact Place.all_of_replaced hin hcandid hrun hfree
  · refine leavesFixtures_of_replaces (fun _ => True)
      (fun _ _ => hstore.replaces) (fun _ _ => trivial) ?_ trivial hs
    intro s s' n _ hcandid hrun hshows
    exact hshows fixtures (hstore.replaces hcandid fixtures n s' hrun).2

/-- A world in which nothing can be listed: a document that is no record,
and a row with a null for a name. The fault waits for an insert of more
records than there are fixed ones. -/
def unlistable : World where
  memories := []
  scripted := [.ofRecords [⟨"Ada", "Byron"⟩]]
  documents := { Documents.Server.empty "localhost:27017" true with
    collections := [("test.employees", [[("first_name", .null)]])]
    faults := [⟨.insert, 11000, some 3⟩] }
  tables := ⟨"localhost:5432", true, [("shop", { Tables.Database.empty false with
    table := some [⟨1, none, some "Byron"⟩]
    nextId := 2 })]⟩

/-- The place of the document that is no record. -/
def unlistableDocuments : Place :=
  .documents ⟨⟨"test", "employees"⟩, true, .usual⟩

/-- The place of the row with a null. -/
def unlistableTable : Place :=
  .table "shop" 1

/-- The server answers, but what it hands out is no record. -/
theorem all_unlistable :
    (unlistableDocuments.store.all unlistable).1 = .error (.documents .undecodable) := by
  let client : Documents.Client := ⟨⟨"test", "employees"⟩, true, .usual⟩
  have hlisted : client.listed unlistable.documents = [[("first_name", .null)]] :=
    (client.listed_perm unlistable.documents).eq_singleton
  have hanswers : client.Answers unlistable.documents := ⟨rfl, rfl, rfl, .inl rfl⟩
  have hcases := client.all_cases unlistable.documents
  show (client.all unlistable.documents).1 = _
  generalize client.all unlistable.documents = run at hcases ⊢
  cases hcases with
  | unreachable h => exact absurd hanswers h
  | refused h => exact absurd hanswers h
  | undecodable => rfl
  | listed _ hread =>
    rw [hlisted] at hread
    cases hread

/-- Seeding reaches the fixed records where nothing could be listed. -/
theorem verify_seed_unlistable :
    (unlistable.database "shop").rows.mapM Tables.Row.toEmployee =
      .error (.table (.nullColumn "first_name")) ∧
    (verify unlistableTable.store (seed unlistableTable.store unlistable).state).result =
      .ok fixtures ∧
    (verify unlistableDocuments.store unlistable).result =
      .error (.store (.documents .undecodable)) ∧
    (verify unlistableDocuments.store (seed unlistableDocuments.store unlistable).state).result =
      .ok fixtures ∧
    (seed (Scripted.store "staff") (.ofRecords [⟨"Ada", "Byron"⟩])).state.records = fixtures := by
  have hplaces := seed_leavesFixtures.1
  have hcandid : unlistableDocuments.Candid unlistable := by
    intro hanswer
    cases hanswer
  have htable := hplaces unlistableTable unlistable trivial trivial
  have hdocuments := hplaces unlistableDocuments unlistable trivial hcandid
  have hscripted := seed_leavesFixtures.2 (Scripted.store "staff") (fun _ => True)
    Scripted.records id (Scripted.store_twoStep "staff") (.ofRecords [⟨"Ada", "Byron"⟩]) trivial
  refine ⟨rfl, htable.verified 3 rfl ?_, ?_, hdocuments.verified 3 rfl ?_,
    hscripted.kept 3 rfl⟩
  · intro fault hmem
    cases hmem
  · have hfails := all_unlistable
    unfold verify
    cases hrun : unlistableDocuments.store.all unlistable with
    | mk result after =>
      rw [hrun] at hfails
      cases hfails
      rfl
  · refine ⟨fun fault hmem => ?_, rfl⟩
    cases hmem

end Roster.Seeder
