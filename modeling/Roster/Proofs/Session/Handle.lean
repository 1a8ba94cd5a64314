import Roster.Proofs.Frame
import Roster.Session

/-!
# `Roster.Proofs.Session.Handle`: what is done on a handle

A step that works on a handle carries out an operation of the store at
its place, or turns a switch of that store, or only tells something, or
is refused. `Session.Performed` lists these with their replies, and
`perform_cases` shows that there is nothing else. So a property of a
session has one case for each of them.

Seeding and verifying count as operations too: as a replace by the fixed
records, and as a listing (`Action.operation?`). Whatever is done on a
handle stays at its place (`perform_world`).
-/

set_option autoImplicit false

namespace Roster

open Store (Operation)

/-- The operation of a store that an action carries out, if it does. -/
def Action.operation? : Action → Option Operation
  | .store operation => some operation
  | .seed => some (.replace fixtures)
  | .verify => some .all
  | .collection | .setUnavailable _ | .fail _ | .display | .poolSize => none

/-- The operation of a store that a step carries out, if it does. -/
def Step.operation? : Step → Option Operation
  | .act _ action => action.operation?
  | _ => none

namespace Session

variable {s : Session} {name : String} {handle : Handle}

/-- What a name stands for is among the handles. -/
theorem mem_of_handle? (h : s.handle? name = some handle) : (name, handle) ∈ s.handles := by
  obtain ⟨before, after, hhandles, _⟩ := List.lookup_eq_some_iff.mp h
  rw [hhandles]
  exact List.mem_append_right _ List.mem_cons_self

/-- What is done on a handle, with the reply to it. -/
inductive Performed (s : Session) (handle : Handle) : Action → Reply → Prop where
  | store (operation : Operation) :
      Performed s handle (.store operation)
        (s.ofAccess .ofReply (handle.place.store.perform operation))
  | seed : Performed s handle .seed
      (s.ofWorld .seed .count (Seeder.seed handle.place.store s.world))
  | verify : Performed s handle .verify
      (s.ofWorld .seed .records (Seeder.verify handle.place.store s.world))
  | switched (number : Nat) (unavailable : Bool) (h : handle.place = .memory number) :
      Performed s handle (.setUnavailable unavailable)
        (s.withWorld (.setMemory number s.world
          { s.world.memory number with unavailable })).done
  | scripted (number : Nat) (collection : String) (failure : Failure)
      (h : handle.place = .scripted number collection) :
      Performed s handle (.fail failure)
        (s.withWorld (.setScript number s.world
          ((s.world.script number).enqueue failure))).done
  | told (action : Action) (value : Value) (h : action.operation? = none) :
      Performed s handle action ⟨.ok value, [], s⟩
  | refused (action : Action) : Performed s handle action (s.refuse .unsupported)

/-- What a store of a known kind can do besides is one of these. -/
theorem kindAction?_cases {action : Action} {reply : Reply}
    (h : s.kindAction? handle.place action = some reply) : Performed s handle action reply := by
  unfold kindAction? at h
  split at h
  · rename_i hplace
    cases h
    exact .switched _ _ hplace
  · cases h
    exact .told _ _ rfl
  · rename_i hplace
    cases h
    exact .scripted _ _ _ hplace
  · cases h
    exact .told _ _ rfl
  · cases h

/-- What a seeder can do besides is one of these. -/
theorem seederAction?_cases {action : Action} {reply : Reply}
    (h : s.seederAction? handle.place.store action = some reply) :
    Performed s handle action reply := by
  unfold seederAction? at h
  split at h
  · cases h
    exact .seed
  · cases h
    exact .verify
  · cases h

/-- What any handle can do is one of these. -/
theorem storeAction?_cases {action : Action} {reply : Reply}
    (h : s.storeAction? handle.place.store action = some reply) :
    Performed s handle action reply := by
  unfold storeAction? at h
  split at h
  · cases h
    exact .store _
  · cases h
    exact .told _ _ rfl
  · cases h

/-- Whatever is done on a handle is one of these. -/
theorem perform_cases (s : Session) (handle : Handle) (action : Action) :
    Performed s handle action (s.perform handle action) := by
  unfold perform
  simp only
  -- What any handle can do comes first, then what its form can do besides.
  cases hstore : s.storeAction? handle.place.store action with
  | some reply => exact storeAction?_cases hstore
  | none =>
    simp only [HOrElse.hOrElse, OrElse.orElse, Option.orElse_none]
    cases hform : handle.form with
    | store =>
      cases hkind : s.kindAction? handle.place action with
      | some reply => exact kindAction?_cases hkind
      | none => exact .refused action
    | opened => exact .refused action
    | seeder =>
      cases hseeder : s.seederAction? handle.place.store action with
      | some reply => exact seederAction?_cases hseeder
      | none => exact .refused action

/-- What is done on a handle changes no name, takes nothing away, and
changes nothing outside the place of the handle. -/
theorem perform_world (s : Session) (handle : Handle) (action : Action) :
    ∃ w, (s.perform handle action).state = s.withWorld w ∧ s.world.Grows w ∧
      s.world.OnlyAt handle.place w := by
  have hcases := s.perform_cases handle action
  generalize s.perform handle action = reply at hcases ⊢
  cases hcases with
  | store operation =>
    exact ⟨_, rfl, handle.place.perform_grows operation s.world,
      handle.place.perform_onlyAt operation s.world⟩
  | seed =>
    exact ⟨_, rfl, Seeder.seed_grows handle.place s.world, Seeder.seed_onlyAt handle.place s.world⟩
  | verify =>
    exact ⟨_, rfl, Seeder.verify_grows handle.place s.world,
      Seeder.verify_onlyAt handle.place s.world⟩
  | switched number unavailable hplace =>
    rw [hplace]
    exact ⟨_, rfl, s.world.grows_setMemory number _, s.world.onlyAt_setMemory number _⟩
  | scripted number collection failure hplace =>
    rw [hplace]
    exact ⟨_, rfl, s.world.grows_setScript number _, s.world.onlyAt_setScript number collection _⟩
  | told action value hnone => exact ⟨s.world, rfl, .refl _, .refl _ _⟩
  | refused action => exact ⟨s.world, rfl, .refl _, .refl _ _⟩

/-- A step on a handle, with what the servers received before it
forgotten. -/
theorem step_act (action : Action) (h : s.handle? name = some handle) :
    (s.step (.act name action)).1.result = (s.clearReceived.perform handle action).result ∧
      (s.step (.act name action)).2 = (s.clearReceived.perform handle action).state := by
  have hreply : s.clearReceived.execute (.act name action) =
      s.clearReceived.perform handle action := by
    unfold execute
    simp only
    rw [show s.clearReceived.handle? name = some handle from h]
  rw [← hreply]
  exact ⟨rfl, rfl⟩

end Session

end Roster
