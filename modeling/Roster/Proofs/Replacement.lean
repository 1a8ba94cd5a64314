import Roster.Fixtures
import Roster.Proofs.Documents.Collection
import Roster.Proofs.Store.InProcess

/-!
# `Roster.Proofs.Replacement`: how a replace can fail half way

A store with nothing better replaces its records in two steps.
`replace_ends` shows that this ends in one of the three ways that
`Store.ReplaceEnds` lists, whatever was kept before, whatever the batch
is and whatever faults wait: the batch alone is kept, or clearing failed
and the old records stand, or inserting failed and a start of the batch
stands. Old and new records never stand together.

If clearing fails, no insert is tried. At a document server no command
to insert arrives, and the faults that wait for one go on waiting
(`Server.InsertsNothing`); the failures of a store that fails on demand
do the same.
-/

set_option autoImplicit false

namespace Roster

open Store (ReplaceEnds)

/-- Taking the first of one kind away leaves those of another kind
alone. -/
theorem filter_eraseP_of_disjoint {α : Type} {p q : α → Bool}
    (hdisjoint : ∀ a, p a = true → q a = false) (l : List α) :
    (l.eraseP p).filter q = l.filter q := by
  induction l with
  | nil => rfl
  | cons a rest ih =>
    cases hp : p a with
    | true =>
      rw [List.eraseP_cons_of_pos hp, List.filter_cons_of_neg (by simp [hdisjoint a hp])]
    | false =>
      rw [List.eraseP_cons_of_neg (by simp [hp])]
      cases hq : q a with
      | true => rw [List.filter_cons_of_pos hq, List.filter_cons_of_pos hq, ih]
      | false =>
        rw [List.filter_cons_of_neg (by simp [hq]), List.filter_cons_of_neg (by simp [hq]), ih]

namespace Documents

/-- Whether a command asks for an insert. -/
def Command.isInsert : Command → Bool
  | .insert .. => true
  | .drop _ | .find .. => false

/-- Between two states of a server no insert was tried: no such command
arrived, and what waits for one goes on waiting. -/
structure Server.InsertsNothing (s s' : Server) : Prop where
  received : s'.received.filter Command.isInsert = s.received.filter Command.isInsert
  faults : s'.faults.filter (·.kind = .insert) = s.faults.filter (·.kind = .insert)

/-- Noting a drop is not an insert. -/
theorem Server.noted_drop_insertsNothing (s : Server) (name : String) :
    s.InsertsNothing (s.noted (.drop name) .drop) where
  received := by
    show (s.received ++ [Command.drop name]).filter Command.isInsert = _
    rw [List.filter_append]
    exact List.append_nil _
  faults := by
    refine filter_eraseP_of_disjoint ?_ s.faults
    intro fault hdrop
    simp only [decide_eq_true_eq] at hdrop
    simp [hdrop]

/-- If clearing fails, a client's replace does not try to insert. -/
theorem Client.replace_insertsNothing {c : Client} {s : Server} {batch : List Employee}
    {e : StoreError} (hclear : (c.clear s).1 = .error e) :
    (c.store.replace batch s).1 = .error e ∧
      s.InsertsNothing (c.store.replace batch s).2 := by
  obtain ⟨s', hrun⟩ : ∃ s', c.clear s = (.error e, s') := ⟨_, Prod.ext hclear rfl⟩
  have hreplace : c.store.replace batch s = (.error e, s') :=
    Access.andThen_eq_error.mpr (Or.inl hrun)
  rw [hreplace]
  refine ⟨rfl, ?_⟩
  rcases Client.clear_eq_error hrun with h | h <;> rw [h]
  · exact ⟨rfl, rfl⟩
  · exact s.noted_drop_insertsNothing c.place.name

end Documents

/-- If clearing fails, a store that fails on demand does not try to
insert: the failures of inserts are still to come. -/
theorem Scripted.replace_failures {s : Scripted} {batch : List Employee} {e : StoreError}
    (collection : String) (hclear : (Scripted.clear s).1 = .error e) :
    ((Scripted.store collection).replace batch s).1 = .error e ∧
      ((Scripted.store collection).replace batch s).2.failures.filter (·.call = .insert) =
        s.failures.filter (·.call = .insert) := by
  obtain ⟨s', hrun⟩ : ∃ s', Scripted.clear s = (.error e, s') := ⟨_, Prod.ext hclear rfl⟩
  have hreplace : (Scripted.store collection).replace batch s = (.error e, s') :=
    Access.andThen_eq_error.mpr (Or.inl hrun)
  rw [hreplace, Scripted.clear_eq_error hrun]
  refine ⟨rfl, filter_eraseP_of_disjoint ?_ s.failures⟩
  intro failure hcall
  simp only [decide_eq_true_eq] at hcall
  simp [hcall]

/-- A replace in two steps ends in one of three ways, and old and new
records never stand together. At a candid document server and in a store
that fails on demand, nothing of an insert is to be seen after clearing
failed. -/
theorem replace_in_two_steps_ends :
    (∀ {σ α : Type} (store : Store σ) (ready : σ → Prop) (contents : σ → List α)
      (keep : Employee → α), store.TwoStep ready contents keep →
        ∀ (batch : List Employee) (s : σ), ready s →
          ReplaceEnds store contents keep batch s (store.replace batch s) ∧
          (contents (store.replace batch s).2 = contents s ∨
            contents (store.replace batch s).2 <+: batch.map keep)) ∧
    (∀ (c : Documents.Client) (batch : List Employee) (s : Documents.Server), c.Candid s →
      ReplaceEnds c.store c.kept Documents.Document.ofEmployee batch s
        (c.store.replace batch s) ∧
      (c.kept (c.store.replace batch s).2 = c.kept s ∨
        c.kept (c.store.replace batch s).2 <+: batch.map Documents.Document.ofEmployee) ∧
      ∀ e, (c.clear s).1 = .error e →
        (c.store.replace batch s).1 = .error e ∧
          s.InsertsNothing (c.store.replace batch s).2) ∧
    ∀ (collection : String) (batch : List Employee) (s : Scripted),
      ReplaceEnds (Scripted.store collection) Scripted.records id batch s
        ((Scripted.store collection).replace batch s) ∧
      (((Scripted.store collection).replace batch s).2.records = s.records ∨
        ((Scripted.store collection).replace batch s).2.records <+: batch) ∧
      ∀ e, (Scripted.clear s).1 = .error e →
        ((Scripted.store collection).replace batch s).1 = .error e ∧
          ((Scripted.store collection).replace batch s).2.failures.filter
            (·.call = .insert) = s.failures.filter (·.call = .insert) := by
  refine ⟨fun store ready contents keep h batch s hs => ?_, fun c batch s hcandid => ?_,
    fun collection batch s => ?_⟩
  · have hends := h.replace_ends batch hs
    exact ⟨hends, hends.old_or_new⟩
  · have hends := c.store_twoStep.replace_ends batch hcandid
    refine ⟨hends, hends.old_or_new, fun e hclear => ?_⟩
    exact Documents.Client.replace_insertsNothing hclear
  · have hends := (Scripted.store_twoStep collection).replace_ends batch (s := s) trivial
    have hapart := hends.old_or_new
    rw [List.map_id] at hapart
    refine ⟨hends, hapart, fun e hclear => ?_⟩
    exact Scripted.replace_failures collection hclear

/-- A server with one document in a collection. Dropping the collection
is refused, and an insert stops after one document. -/
def refusing : Documents.Server :=
  { Documents.Server.empty "localhost:27017" true with
    collections := [("test.employees", [Documents.Document.ofEmployee ⟨"Ada", "Byron"⟩])]
    faults := [⟨.insert, 11000, some 1⟩, ⟨.drop, 13, none⟩] }

/-- The client of that collection. -/
def refusedClient : Documents.Client :=
  ⟨⟨"test", "employees"⟩, true, .usual⟩

/-- A server that refuses to drop, for another reason than that there is
nothing to drop, is candid; the replace fails with its answer, and the
fault that waits for an insert is still there. -/
theorem replace_in_two_steps_refused :
    refusedClient.Candid refusing ∧
    (refusedClient.store.replace fixtures refusing).1 =
      .error (.documents (.command 13)) ∧
    (refusedClient.store.replace fixtures refusing).2.faults.filter (·.kind = .insert) =
      [⟨.insert, 11000, some 1⟩] ∧
    ((Scripted.store "staff").replace fixtures (.ofRecords [⟨"Ada", "Byron"⟩])).2.records
      <+: fixtures.map id := by
  have hcandid : refusedClient.Candid refusing := by
    intro hanswer
    cases hanswer
  obtain ⟨_, _, hrefused⟩ :=
    replace_in_two_steps_ends.2.1 refusedClient fixtures refusing hcandid
  obtain ⟨hresult, hnothing⟩ := hrefused (.documents (.command 13)) rfl
  obtain ⟨_, hapart⟩ := replace_in_two_steps_ends.1 (Scripted.store "staff") (fun _ => True)
    Scripted.records id (Scripted.store_twoStep "staff") fixtures
    (.ofRecords [⟨"Ada", "Byron"⟩]) trivial
  exact ⟨hcandid, hresult, hnothing.faults, hapart.resolve_left (by decide)⟩

end Roster
