import Roster.Proofs.Store.Operation

/-!
# `Roster.Proofs.Store.TwoStep`: replacing in two steps

A store without a replace of its own clears and then inserts. Either
step can fail, and a failing insert may have written the start of its
batch. `Store.TwoStep` gathers what such a store promises of its two
steps; `Store.ReplaceEnds` lists the three ways in which its replace can
end, and `TwoStep.replace_ends` shows that there is no fourth. In
particular old and new records never stand together
(`ReplaceEnds.old_or_new`).

A clear that succeeds has emptied the store only in a `ready` state: a
server may answer that there was nothing to clear although there was.
-/

set_option autoImplicit false

namespace Roster.Store

variable {σ α : Type}

/-- What a store promises that replaces in two steps. -/
structure TwoStep (store : Store σ) (ready : σ → Prop) (contents : σ → List α)
    (keep : Employee → α) : Prop where
  replace_eq : store.replace = clearThenInsert store.clear store.insert
  clear_ok : ∀ {s s'}, ready s → store.clear s = (.ok (), s') → contents s' = []
  clear_error : ∀ {e s s'}, store.clear s = (.error e, s') → contents s' = contents s
  insert_ok : ∀ {batch n s s'}, store.insert batch s = (.ok n, s') →
    n = batch.length ∧ contents s' = contents s ++ batch.map keep
  insert_error : ∀ {batch e s s'}, store.insert batch s = (.error e, s') →
    ∃ written, written <+: batch ∧ contents s' = contents s ++ written.map keep

/-- How a replace in two steps ends: its result and the state that it
leaves. -/
inductive ReplaceEnds (store : Store σ) (contents : σ → List α) (keep : Employee → α)
    (batch : List Employee) (s : σ) : Except StoreError Nat × σ → Prop where
  /-- Exactly the batch is there. -/
  | replaced (s' : σ) (h : contents s' = batch.map keep) :
      ReplaceEnds store contents keep batch s (.ok batch.length, s')
  /-- Clearing failed, and this was the last that was done. -/
  | notCleared (e : StoreError) (s' : σ) (hclear : store.clear s = (.error e, s'))
      (h : contents s' = contents s) :
      ReplaceEnds store contents keep batch s (.error e, s')
  /-- Inserting failed, after the start of the batch was written. -/
  | notWritten (e : StoreError) (middle s' : σ) (hclear : store.clear s = (.ok (), middle))
      (hinsert : store.insert batch middle = (.error e, s'))
      (h : contents s' <+: batch.map keep) :
      ReplaceEnds store contents keep batch s (.error e, s')

namespace TwoStep

variable {store : Store σ} {ready : σ → Prop} {contents : σ → List α}
  {keep : Employee → α}

/-- A replace in two steps ends in one of the three ways. -/
theorem replace_ends (h : store.TwoStep ready contents keep) (batch : List Employee)
    {s : σ} (hs : ready s) :
    store.ReplaceEnds contents keep batch s (store.replace batch s) := by
  rw [h.replace_eq]
  cases hrun : clearThenInsert store.clear store.insert batch s with
  | mk result s' =>
    cases result with
    | ok n =>
      obtain ⟨_, middle, hclear, hinsert⟩ := Access.andThen_eq_ok.mp hrun
      obtain ⟨rfl, hcontents⟩ := h.insert_ok hinsert
      -- The insert added to an empty store.
      rw [h.clear_ok hs hclear] at hcontents
      exact .replaced s' hcontents
    | error e =>
      rcases Access.andThen_eq_error.mp hrun with hclear | ⟨_, middle, hclear, hinsert⟩
      · exact .notCleared e s' hclear (h.clear_error hclear)
      · -- The old records went with the clear, so what stands is what the
        -- insert wrote before it failed.
        obtain ⟨written, hwritten, hcontents⟩ := h.insert_error hinsert
        rw [h.clear_ok hs hclear, List.nil_append] at hcontents
        exact .notWritten e middle s' hclear hinsert (hcontents ▸ hwritten.map keep)

/-- A replace that succeeds leaves exactly the batch. -/
theorem replaces (h : store.TwoStep ready contents keep) {s : σ} (hs : ready s) :
    store.Replaces contents keep s := by
  intro batch n s' hrun
  have hends := h.replace_ends batch hs
  rw [hrun] at hends
  cases hends with
  | replaced _ hcontents => exact ⟨rfl, hcontents⟩

/-- A store that replaces in two steps follows the list, if listing does
not change it. -/
theorem follows (h : store.TwoStep ready contents keep)
    (hall : ∀ {records s s'}, store.all s = (.ok records, s') → contents s' = contents s)
    (operation : Operation) {s : σ} (hs : ready s) :
    store.Follows contents keep operation s := by
  intro reply s' hrun
  cases operation with
  | clear =>
    obtain ⟨_, hclear, _⟩ := Access.map_eq_ok.mp hrun
    exact h.clear_ok hs hclear
  | insert batch =>
    obtain ⟨_, hinsert, _⟩ := Access.map_eq_ok.mp hrun
    exact (h.insert_ok hinsert).2
  | replace batch =>
    obtain ⟨_, hreplace, _⟩ := Access.map_eq_ok.mp hrun
    exact (h.replaces hs batch _ s' hreplace).2
  | all =>
    obtain ⟨_, hlist, _⟩ := Access.map_eq_ok.mp hrun
    exact hall hlist

end TwoStep

/-- Whatever a replace in two steps leaves is all old or all new. -/
theorem ReplaceEnds.old_or_new {store : Store σ} {contents : σ → List α}
    {keep : Employee → α} {batch : List Employee} {s : σ}
    {result : Except StoreError Nat × σ}
    (h : store.ReplaceEnds contents keep batch s result) :
    contents result.2 = contents s ∨ contents result.2 <+: batch.map keep := by
  cases h with
  | replaced s' hcontents => exact Or.inr (hcontents ▸ List.prefix_refl _)
  | notCleared e s' _ hcontents => exact Or.inl hcontents
  | notWritten e middle s' _ _ hcontents => exact Or.inr hcontents

end Roster.Store
