import Roster.Proofs.Documents.Isolation
import Roster.Proofs.Place

/-!
# `Roster.Proofs.Listing`: a listing shows what is kept

What is kept at a place need not be records: a document may hold
anything, and a name in a row may be null. `Place.decode?` reads what is
kept as records, if all of it can be read. A listing that succeeds shows
just these records, in the order in which they are kept
(`Place.decode_of_all`); of a collection that needs its documents to be in
the order of their identifiers (`Place.InOrder`). Whether it succeeds or
fails, it changes nothing that is kept, at its own place or elsewhere
(`Place.contents_all`).
-/

set_option autoImplicit false

namespace Roster

/-- The record with two names, if neither is null. -/
def Employee.ofNames? : Option String × Option String → Option Employee
  | (some first, some last) => some ⟨first, last⟩
  | (none, _) => none
  | (some _, none) => none

namespace Tables

/-- Rows that are read as records hold the names of these records. -/
theorem mapM_ofNames_of_toEmployee {rows : List Row} {records : List Employee}
    (h : rows.mapM Row.toEmployee = .ok records) :
    (rows.map Row.names).mapM Employee.ofNames? = some records := by
  induction rows generalizing records with
  | nil =>
    cases h
    rfl
  | cons row rest ih =>
    obtain ⟨id, first, last⟩ := row
    rw [List.mapM_cons] at h
    -- A null name ends the reading; otherwise the rest is read.
    cases first with
    | none => cases h
    | some first =>
      cases last with
      | none => cases h
      | some last =>
        cases hrest : rest.mapM Row.toEmployee with
        | error e =>
          rw [hrest] at h
          cases h
        | ok more =>
          rw [hrest] at h
          cases h
          rw [List.map_cons, List.mapM_cons, ih hrest]
          rfl

/-- A listing of the table that succeeds shows what the table keeps. -/
theorem kept_of_all {s s' : Database} {records : List Employee}
    (hrun : all s = (.ok records, s')) :
    s'.kept.mapM Employee.ofNames? = some records := by
  obtain ⟨_, middle, _, hanswer⟩ := Access.andThen_eq_ok.mp hrun
  obtain ⟨hread, rfl⟩ := Prod.mk.inj hanswer
  exact mapM_ofNames_of_toEmployee hread

end Tables

namespace Documents

/-- A listing of a collection in order that succeeds shows what the
collection keeps. -/
theorem Client.kept_of_all {c : Client} {s s' : Server} {records : List Employee}
    (hordered : c.Ordered s) (hrun : c.all s = (.ok records, s')) :
    (c.kept s').mapM Document.toEmployee? = some records := by
  have hsame := c.all_kept s
  have hcases := c.all_cases s
  rw [hrun] at hsame hcases
  rw [hsame]
  cases hcases with
  | listed _ hread _ => exact hordered.mapM_listed ▸ hread

end Documents

namespace Place

/-- The records that something kept at a place stands for, if all of it
can be read. -/
def decode? : (p : Place) → List p.Kept → Option (List Employee)
  | .memory _ => some
  | .scripted .. => some
  | .documents _ => fun kept => kept.mapM Documents.Document.toEmployee?
  | .table .. => fun kept => kept.mapM Employee.ofNames?

/-- Whether what is kept at a place stands in the order in which it is
listed. -/
def InOrder (w : World) : Place → Prop
  | .documents client => client.Ordered w.documents
  | .memory _ => True
  | .scripted .. => True
  | .table .. => True

variable {p : Place} {w w' : World} {found : List Employee}

/-- A listing that succeeds shows the records that are kept, in their
order. -/
theorem decode_of_all (hin : p.InWorld w) (hordered : p.InOrder w)
    (hrun : p.store.all w = (.ok found, w')) : p.decode? (p.contents w') = some found := by
  cases p with
  | memory number =>
    obtain ⟨m, hall, rfl⟩ := Store.all_within (World.memory · number)
      (World.setMemory number) hrun
    show some ((World.setMemory number w m).memory number).records = _
    rw [World.memory_setMemory hin]
    simp only [Memory.store, Memory.inService] at hall
    split at hall <;> cases hall
    rfl
  | scripted number collection =>
    obtain ⟨s, hall, rfl⟩ := Store.all_within (World.script · number)
      (World.setScript number) hrun
    show some ((World.setScript number w s).script number).records = _
    rw [World.script_setScript hin, Scripted.all_eq_ok hall]
  | documents client =>
    obtain ⟨s, hall, rfl⟩ := Store.all_within World.documents World.setDocuments hrun
    exact Documents.Client.kept_of_all hordered hall
  | table database size =>
    obtain ⟨d, hall, rfl⟩ := Store.all_within (World.database · database)
      (World.setDatabase database) hrun
    show ((World.setDatabase database w d).database database).kept.mapM Employee.ofNames? = _
    rw [World.database_setDatabase]
    exact Tables.kept_of_all hall

/-- What a store in memory holds is put back by writing it. -/
theorem setMemory_self (number : Nat) (w : World) :
    World.setMemory number w (w.memory number) = w := by
  have hset : w.memories.set number (w.memory number) = w.memories := by
    unfold World.memory
    cases hmemory : w.memories[number]? with
    | none => exact List.set_eq_of_length_le (List.getElem?_eq_none_iff.mp hmemory)
    | some m =>
      obtain ⟨hlt, rfl⟩ := List.getElem?_eq_some_iff.mp hmemory
      exact List.set_getElem_self hlt
  unfold World.setMemory
  rw [hset]

/-- A store that fails on demand and keeps its records changes those of
no store. -/
theorem setScript_records {number : Nat} (w : World) {s : Scripted}
    (h : s.records = (w.script number).records) (other : Nat) :
    ((World.setScript number w s).script other).records = (w.script other).records := by
  unfold World.script World.setScript at *
  by_cases hsame : number = other
  · subst hsame
    by_cases hin : number < w.scripted.length
    · rw [List.getElem?_set_self hin]
      exact h
    · rw [List.set_eq_of_length_le (Nat.le_of_not_lt hin)]
  · rw [List.getElem?_set_ne hsame]

/-- A listing changes nothing that is kept, at whichever place. -/
theorem contents_all (p q : Place) (w : World) :
    q.contents (p.store.all w).2 = q.contents w := by
  cases p with
  | memory number =>
    have hsame : (Memory.store.all (w.memory number)).2 = w.memory number := by
      simp only [Memory.store, Memory.inService]
      split <;> rfl
    show q.contents (World.setMemory number w (Memory.store.all (w.memory number)).2) = _
    rw [hsame, setMemory_self]
  | scripted number collection =>
    show q.contents (World.setScript number w (Scripted.all (w.script number)).2) = _
    cases q with
    | scripted other _ => exact setScript_records w (Scripted.all_records _) other
    | memory _ => rfl
    | documents _ => rfl
    | table _ _ => rfl
  | documents client =>
    cases q with
    | documents other =>
      exact Documents.Client.kept_of_documents (Documents.Server.documents_of_collection?
        (client.all_collection? w.documents other.place.name))
    | memory _ => rfl
    | scripted _ _ => rfl
    | table _ _ => rfl
  | table database size =>
    cases q with
    | table other _ =>
      show ((World.setDatabase database w _).database other).kept = (w.database other).kept
      by_cases hother : other = database
      · subst hother
        rw [World.database_setDatabase]
        exact Tables.Database.kept_of_table (Tables.all_state (w.database other)).1
      · rw [World.database_setDatabase_ne hother]
    | memory _ => rfl
    | scripted _ _ => rfl
    | documents _ => rfl

end Place

end Roster
