import Roster.Proofs.Documents.Calm
import Roster.Proofs.Store.InProcess
import Roster.Proofs.Tables.Calm
import Roster.Proofs.Tables.Databases
import Roster.World

/-!
# `Roster.Proofs.Place`: what is kept at a place

Every place in the world keeps records in a form of its own: as they are
inside the process, as documents, or as the two names of a row
(`Place.Kept`, `Place.keep`). `Place.contents` lists what is kept there
in its order.

The facts on the four kinds of store are brought together here. An
operation that succeeds does to the contents what it does to a plain
list (`Place.store_follows`), given that the place is `Ready` for it. A
replace needs less: it succeeds only with the batch alone in place,
whatever was there before (`Place.store_replaces`). At the places in memory
and in a table a failure changes nothing (`Place.store_spares`). A place
with nothing in its way answers like the list (`Place.perform_of_calm`).
-/

set_option autoImplicit false

namespace Roster

open Store (Operation)

namespace World

/-- The store in memory with a number. -/
theorem memory_eq {w : World} {number : Nat} {m : Memory} (h : w.memories[number]? = some m) :
    w.memory number = m := by
  unfold memory
  rw [h]
  rfl

/-- The store that fails on demand with a number. -/
theorem script_eq {w : World} {number : Nat} {s : Scripted}
    (h : w.scripted[number]? = some s) : w.script number = s := by
  unfold script
  rw [h]
  rfl

/-- A state of a store in memory is read back. -/
theorem memory_setMemory {w : World} {number : Nat} (h : number < w.memories.length)
    (m : Memory) : (setMemory number w m).memory number = m :=
  memory_eq (List.getElem?_set_self h)

/-- A state of a store that fails on demand is read back. -/
theorem script_setScript {w : World} {number : Nat} (h : number < w.scripted.length)
    (s : Scripted) : (setScript number w s).script number = s :=
  script_eq (List.getElem?_set_self h)

/-- A state of a database is read back. -/
theorem database_setDatabase (name : String) (w : World) (d : Tables.Database) :
    (setDatabase name w d).database name = d :=
  w.tables.database_setDatabase name d

/-- Another state of one database changes no other. -/
theorem database_setDatabase_ne {name other : String} (h : other ≠ name) (w : World)
    (d : Tables.Database) : (setDatabase name w d).database other = w.database other :=
  Tables.Server.database_setDatabase_ne h w.tables d

/-- What no work on a world takes away: stores inside the process stay,
and sound databases stay sound. -/
structure Grows (w w' : World) : Prop where
  memories : w.memories.length ≤ w'.memories.length
  scripted : w.scripted.length ≤ w'.scripted.length
  tables : ∀ name, (w.database name).Sound → (w'.database name).Sound

theorem Grows.refl (w : World) : w.Grows w :=
  ⟨Nat.le_refl _, Nat.le_refl _, fun _ => id⟩

theorem Grows.trans {w₁ w₂ w₃ : World} (h₁ : w₁.Grows w₂) (h₂ : w₂.Grows w₃) :
    w₁.Grows w₃ where
  memories := Nat.le_trans h₁.memories h₂.memories
  scripted := Nat.le_trans h₁.scripted h₂.scripted
  tables name := h₂.tables name ∘ h₁.tables name

/-- Another state of a store in memory takes nothing away. -/
theorem grows_setMemory (number : Nat) (w : World) (m : Memory) :
    w.Grows (setMemory number w m) :=
  ⟨Nat.le_of_eq (List.length_set ..).symm, Nat.le_refl _, fun _ => id⟩

/-- Another state of a store that fails on demand takes nothing away. -/
theorem grows_setScript (number : Nat) (w : World) (s : Scripted) :
    w.Grows (setScript number w s) :=
  ⟨Nat.le_refl _, Nat.le_of_eq (List.length_set ..).symm, fun _ => id⟩

/-- Another state of the document server takes nothing away. -/
theorem grows_setDocuments (w : World) (s : Documents.Server) : w.Grows (w.setDocuments s) :=
  ⟨Nat.le_refl _, Nat.le_refl _, fun _ => id⟩

/-- Another state of a database takes nothing away if the database stays
sound. -/
theorem grows_setDatabase {name : String} {w : World} {d : Tables.Database}
    (h : (w.database name).Sound → d.Sound) : w.Grows (setDatabase name w d) where
  memories := Nat.le_refl _
  scripted := Nat.le_refl _
  tables other hsound := by
    by_cases hother : other = name
    · subst hother
      rw [database_setDatabase]
      exact h hsound
    · rwa [database_setDatabase_ne hother]

end World

namespace Place

/-- The form in which a place keeps a record. -/
def Kept : Place → Type
  | .memory _ => Employee
  | .scripted .. => Employee
  | .documents _ => Documents.Document
  | .table .. => Option String × Option String

/-- A record in the form in which a place keeps it. -/
def keep : (p : Place) → Employee → p.Kept
  | .memory _ => id
  | .scripted .. => id
  | .documents _ => Documents.Document.ofEmployee
  | .table .. => Employee.names

/-- What is kept at a place, in its order. -/
def contents : (p : Place) → World → List p.Kept
  | .memory number => fun w => (w.memory number).records
  | .scripted number _ => fun w => (w.script number).records
  | .documents client => fun w => client.kept w.documents
  | .table database _ => fun w => (w.database database).kept

/-- Whether the world has a store at the place. -/
def InWorld (w : World) : Place → Prop
  | .memory number => number < w.memories.length
  | .scripted number _ => number < w.scripted.length
  | .documents _ => True
  | .table .. => True

/-- Whether a server at the place says "there was nothing to clear" only
if there was nothing. -/
def Candid (w : World) : Place → Prop
  | .documents client => client.Candid w.documents
  | .memory _ => True
  | .scripted .. => True
  | .table .. => True

/-- Whether the answers at a place tell what was done there. -/
def Ready (w : World) : Place → Prop
  | .memory number => number < w.memories.length
  | .scripted number _ => number < w.scripted.length
  | .documents client => client.Candid w.documents
  | .table database _ => (w.database database).Sound

variable {p : Place} {w w' : World}

/-- At every place, an operation that succeeds does to what is kept what
it does to a plain list. -/
theorem store_follows (h : p.Ready w) (operation : Operation) :
    p.store.Follows p.contents p.keep operation w := by
  cases p with
  | memory number =>
    exact .within (World.memory · number) (World.setMemory number)
      (Memory.store_follows operation _) (World.memory_setMemory h)
  | scripted number collection =>
    exact .within (World.script · number) (World.setScript number)
      (Scripted.store_follows collection operation _) (World.script_setScript h)
  | documents client =>
    exact .within World.documents World.setDocuments
      (Documents.Client.store_follows operation h) fun _ => rfl
  | table database size =>
    exact .within (World.database · database) (World.setDatabase database)
      (Tables.store_follows h operation) (World.database_setDatabase database w)

/-- At every place, a replace that succeeds leaves exactly the batch. -/
theorem store_replaces (hin : p.InWorld w) (hcandid : p.Candid w) :
    p.store.Replaces p.contents p.keep w := by
  cases p with
  | memory number =>
    exact .within (World.memory · number) (World.setMemory number)
      (Memory.store_replaces _) (World.memory_setMemory hin)
  | scripted number collection =>
    exact .within (World.script · number) (World.setScript number)
      ((Scripted.store_twoStep collection).replaces trivial) (World.script_setScript hin)
  | documents client =>
    exact .within World.documents World.setDocuments
      (client.store_twoStep.replaces hcandid) fun _ => rfl
  | table database size =>
    exact .within (World.database · database) (World.setDatabase database)
      (Tables.store_replaces _) (World.database_setDatabase database w)

/-- A place stays in a world that grows. -/
theorem InWorld.of_grows (h : p.InWorld w) (hgrows : w.Grows w') : p.InWorld w' := by
  cases p with
  | memory number => exact Nat.lt_of_lt_of_le h hgrows.memories
  | scripted number collection => exact Nat.lt_of_lt_of_le h hgrows.scripted
  | documents client => trivial
  | table database size => trivial

/-- No operation takes a store away or spoils the table. -/
theorem perform_grows (p : Place) (operation : Operation) (w : World) :
    w.Grows (p.store.perform operation w).2 := by
  cases p with
  | memory number =>
    rw [show (memory number).store.perform operation w = _ from
      Store.perform_within_eq (World.memory · number) (World.setMemory number) rfl]
    exact w.grows_setMemory number _
  | scripted number collection =>
    rw [show (scripted number collection).store.perform operation w = _ from
      Store.perform_within_eq (World.script · number) (World.setScript number) rfl]
    exact w.grows_setScript number _
  | documents client =>
    rw [show (documents client).store.perform operation w = _ from
      Store.perform_within_eq World.documents World.setDocuments rfl]
    exact w.grows_setDocuments _
  | table database size =>
    rw [show (table database size).store.perform operation w = _ from
      Store.perform_within_eq (World.database · database) (World.setDatabase database) rfl]
    exact World.grows_setDatabase fun h => Tables.perform_sound h operation

/-- No fault or failure at a place waits for a listing, and it is not
declined. -/
def ListsFreely (w : World) : Place → Prop
  | .memory _ => True
  | .scripted number _ => ∀ failure ∈ (w.script number).failures, failure.call ≠ .all
  | .documents client => (∀ fault ∈ w.documents.faults, fault.kind ≠ .find) ∧
      client.terms.level.bind w.documents.declinesLevel = none
  | .table database _ => ∀ fault ∈ (w.database database).faults, fault.kind ≠ .select

/-- Whether the store at a place can be reached and has its records in
order, so that a listing which nothing waits for shows them. -/
def Serves (w : World) : Place → Prop
  | .memory number => (w.memory number).unavailable = false
  | .scripted .. => True
  | .documents client => client.reachable = true ∧ w.documents.listening = true ∧
      client.Ordered w.documents
  | .table database _ => (w.database database).table.isSome

/-- A store in memory that did something can be reached. -/
theorem serves_of_memory {number : Nat} {operation : Operation} {reply : Store.Reply}
    (hin : (memory number).InWorld w)
    (hrun : (memory number).store.perform operation w = (.ok reply, w')) :
    (memory number).Serves w' := by
  obtain ⟨m, hact, rfl⟩ := Store.of_perform_within (World.memory · number)
    (World.setMemory number) hrun
  show ((World.setMemory number w m).memory number).unavailable = false
  rw [World.memory_setMemory hin]
  exact Memory.available_of_perform hact

/-- Only a store that can be reached is cleared, and then it is in order. -/
theorem serves_of_clear (hin : p.InWorld w) (hcandid : p.Candid w) {reply : Store.Reply}
    (hrun : p.store.perform .clear w = (.ok reply, w')) : p.Serves w' := by
  cases p with
  | memory number => exact serves_of_memory hin hrun
  | scripted number collection => trivial
  | documents client =>
    obtain ⟨s, hact, rfl⟩ := Store.of_perform_within World.documents World.setDocuments hrun
    obtain ⟨_, hclear, _⟩ := Access.map_eq_ok.mp hact
    obtain ⟨hreachable, hlistening⟩ := Documents.Client.reachable_of_clear hclear
    exact ⟨hreachable, hlistening, Documents.Client.ordered_of_nil
      (Documents.Client.documents_of_clear hcandid hclear)⟩
  | table database size =>
    obtain ⟨d, hact, rfl⟩ := Store.of_perform_within (World.database · database)
      (World.setDatabase database) hrun
    obtain ⟨_, hclear, _⟩ := Access.map_eq_ok.mp hact
    show ((World.setDatabase database w d).database database).table.isSome
    rw [World.database_setDatabase, Tables.clear_eq_ok hclear]
    rfl

/-- A store that can be reached can be reached after an insert. -/
theorem Serves.insert (h : p.Serves w) (hin : p.InWorld w) {batch : List Employee}
    {reply : Store.Reply} (hrun : p.store.perform (.insert batch) w = (.ok reply, w')) :
    p.Serves w' := by
  cases p with
  | memory number => exact serves_of_memory hin hrun
  | scripted number collection => trivial
  | documents client =>
    obtain ⟨s, hact, rfl⟩ := Store.of_perform_within World.documents World.setDocuments hrun
    obtain ⟨_, hinsert, _⟩ := Access.map_eq_ok.mp hact
    have hsame := client.insert_rests batch w.documents
    rw [show client.insert batch w.documents = _ from hinsert] at hsame
    exact ⟨h.1, hsame.1.trans h.2.1, hsame.2 h.2.2⟩
  | table database size =>
    obtain ⟨d, hact, rfl⟩ := Store.of_perform_within (World.database · database)
      (World.setDatabase database) hrun
    obtain ⟨_, hinsert, _⟩ := Access.map_eq_ok.mp hact
    show ((World.setDatabase database w d).database database).table.isSome
    rw [World.database_setDatabase]
    exact (Tables.insert_eq_ok hinsert).2.2.2.2.trans h

/-- Only in a store that can be reached are the records replaced, and then it
is in order. -/
theorem serves_of_replace (hin : p.InWorld w) (hcandid : p.Candid w)
    {batch : List Employee} {n : Nat} (hreplace : p.store.replace batch w = (.ok n, w')) :
    p.Serves w' := by
  cases p with
  | memory number =>
    have hrun : (memory number).store.perform (.replace batch) w = (.ok (.written n), w') :=
      Access.map_eq_ok.mpr ⟨n, hreplace, rfl⟩
    exact serves_of_memory hin hrun
  | scripted number collection => trivial
  | documents client =>
    obtain ⟨s, hact, rfl⟩ := Store.replace_within World.documents World.setDocuments hreplace
    obtain ⟨_, middle, hclear, hinsert⟩ := Access.andThen_eq_ok.mp hact
    obtain ⟨hreachable, hlistening⟩ := Documents.Client.reachable_of_clear hclear
    have hordered := Documents.Client.ordered_of_nil
      (Documents.Client.documents_of_clear hcandid hclear)
    have hsame := client.insert_rests batch middle
    rw [show client.insert batch middle = _ from hinsert] at hsame
    exact ⟨hreachable, hsame.1.trans hlistening, hsame.2 hordered⟩
  | table database size =>
    obtain ⟨d, hact, rfl⟩ := Store.replace_within (World.database · database)
      (World.setDatabase database) hreplace
    show ((World.setDatabase database w d).database database).table.isSome
    rw [World.database_setDatabase, (Tables.replace_eq_ok hact).2.1]
    rfl

/-- At a store that can be reached, a listing that nothing waits for shows
the records that are kept. -/
theorem Serves.all (h : p.Serves w) (hfree : p.ListsFreely w) {records : List Employee}
    (hkept : p.contents w = records.map p.keep) : (p.store.all w).1 = .ok records := by
  cases p with
  | memory number =>
    have hrecords : (w.memory number).records = records.map id := hkept
    show (Memory.store.all (w.memory number)).1 = _
    rw [Memory.all_of_available h, hrecords, List.map_id]
  | scripted number collection =>
    have hrecords : (w.script number).records = records.map id := hkept
    show (Scripted.all (w.script number)).1 = _
    rw [Scripted.all_of_calm hfree, hrecords, List.map_id]
  | documents client =>
    exact congrArg Prod.fst (Documents.Client.all_of_granted h.1 h.2.1
      (Documents.Server.waiting_eq_nil_iff.mpr hfree.1) hfree.2 h.2.2 hkept)
  | table database size => exact congrArg Prod.fst (Tables.all_of_calm h hfree hkept)

/-- After a replace that succeeded, a listing that nothing waits for shows
its batch. -/
theorem all_of_replaced (hin : p.InWorld w) (hcandid : p.Candid w) {batch : List Employee}
    {n : Nat} (hrun : p.store.replace batch w = (.ok n, w')) (hfree : p.ListsFreely w') :
    (p.store.all w').1 = .ok batch :=
  (serves_of_replace hin hcandid hrun).all hfree (store_replaces hin hcandid batch n w' hrun).2

/-! ### Places that are never half written -/

/-- The places whose store replaces its records in one step. -/
def IsAtomic : Place → Prop
  | .memory _ => True
  | .table .. => True
  | .scripted .. => False
  | .documents _ => False

/-- At an atomic place a failure changes nothing. -/
theorem store_spares (hatomic : p.IsAtomic) (h : p.Ready w) (operation : Operation) :
    p.store.Spares p.contents operation w := by
  cases p with
  | memory number =>
    exact .within (World.memory · number) (World.setMemory number)
      (Memory.store_spares operation _) (World.memory_setMemory h)
  | table database size =>
    exact .within (World.database · database) (World.setDatabase database)
      (Tables.store_spares h operation) (World.database_setDatabase database w)
  | scripted number collection => exact hatomic.elim
  | documents client => exact hatomic.elim

/-- What operations one after another make of what is kept at a
place. -/
def leaves (p : Place) (operations : List Operation) (kept : List p.Kept) : List p.Kept :=
  operations.foldl (fun kept operation => operation.leave p.keep kept) kept

/-- At an atomic place an operation does what it does to a plain list, or
fails and does nothing. -/
theorem contents_perform (hatomic : p.IsAtomic) (h : p.Ready w) (operation : Operation) :
    p.contents (p.store.perform operation w).2 =
      p.leaves (if (p.store.perform operation w).1.isOk then [operation] else [])
        (p.contents w) := by
  cases hrun : p.store.perform operation w with
  | mk result w' =>
    cases result with
    | ok reply => exact store_follows h operation reply w' hrun
    | error e => exact store_spares hatomic h operation e w' hrun

/-! ### Places with nothing in their way -/

/-- Why the store at a place refuses an operation in any case. -/
def refuses : Place → Operation → Option StoreError
  | .table .. => Tables.refuses
  | .memory _ => fun _ => none
  | .scripted .. => fun _ => none
  | .documents _ => fun _ => none

/-- Nothing is in the way of an operation at a place. -/
def Calm (w : World) : Place → Prop
  | .memory number => number < w.memories.length ∧ (w.memory number).unavailable = false
  | .scripted number _ => number < w.scripted.length ∧ (w.script number).failures = []
  | .documents client => client.Calm w.documents
  | .table database _ => (w.database database).Calm ∧ (w.database database).Sound

/-- A place with nothing in its way tells by its answers what was
done. -/
theorem Calm.ready (h : p.Calm w) : p.Ready w := by
  cases p with
  | memory number => exact h.1
  | scripted number collection => exact h.1
  | documents client => exact Documents.Client.Calm.candid h
  | table database size => exact h.2

/-- What a place refuses in any case changes nothing there. -/
theorem spares_of_refuses (h : p.Ready w) {operation : Operation}
    (hrefuses : p.refuses operation ≠ none) : p.store.Spares p.contents operation w := by
  cases p with
  | table database size => exact store_spares (p := .table database size) trivial h operation
  | memory number => exact absurd rfl hrefuses
  | scripted number collection => exact absurd rfl hrefuses
  | documents client => exact absurd rfl hrefuses

/-- With nothing in its way, a place answers like the plain list. -/
theorem answer_of_calm (h : p.Calm w) {records : List Employee}
    (hkept : p.contents w = records.map p.keep) (operation : Operation) :
    ∃ w', p.store.perform operation w = ((operation.attempt p.refuses records).1, w') ∧
      p.Calm w' := by
  -- The kept forms are read as records first; then each kind of store
  -- says what it answers.
  cases p with
  | memory number =>
    obtain ⟨hin, havailable⟩ := h
    have hrun := Memory.perform_eq operation (w.memory number)
    rw [havailable, if_neg Bool.false_ne_true,
      show (w.memory number).records = records.map id from hkept, List.map_id] at hrun
    refine ⟨_, Store.perform_within_eq (World.memory · number) (World.setMemory number) hrun,
      ?_, ?_⟩
    · exact (List.length_set ..).symm ▸ hin
    · rw [World.memory_setMemory hin]
  | scripted number collection =>
    obtain ⟨hin, hfailures⟩ := h
    have hrun := Scripted.perform_of_calm collection operation hfailures
    rw [show (w.script number).records = records.map id from hkept, List.map_id] at hrun
    refine ⟨_, Store.perform_within_eq (World.script · number) (World.setScript number) hrun,
      ?_, ?_⟩
    · exact (List.length_set ..).symm ▸ hin
    · rw [World.script_setScript hin]
      exact hfailures
  | documents client =>
    obtain ⟨s', hrun, hcalm⟩ := Documents.Client.perform_of_calm h hkept operation
    exact ⟨_, Store.perform_within_eq World.documents World.setDocuments hrun, hcalm⟩
  | table database size =>
    obtain ⟨s', hrun, hcalm⟩ := Tables.perform_of_calm h.1 hkept operation
    refine ⟨_, Store.perform_within_eq (World.database · database) (World.setDatabase database)
      hrun, ?_⟩
    have hsound := Tables.perform_sound h.2 operation
    rw [hrun] at hsound
    show ((World.setDatabase database w s').database database).Calm ∧ _
    rw [World.database_setDatabase]
    exact ⟨hcalm, hsound⟩

/-- With nothing in its way, a place answers like the plain list and holds
what the list holds. -/
theorem perform_of_calm (h : p.Calm w) {records : List Employee}
    (hkept : p.contents w = records.map p.keep) (operation : Operation) :
    ∃ w', p.store.perform operation w = ((operation.attempt p.refuses records).1, w') ∧
      p.Calm w' ∧
      p.contents w' = (operation.attempt p.refuses records).2.map p.keep := by
  obtain ⟨w', hrun, hcalm⟩ := answer_of_calm h hkept operation
  exact ⟨w', hrun, hcalm, Store.contents_of_attempt (store_follows h.ready operation)
    (spares_of_refuses h.ready) hkept hrun⟩

end Place

end Roster
