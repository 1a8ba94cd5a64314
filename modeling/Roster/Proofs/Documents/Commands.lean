import Roster.Documents.Store
import Roster.Proofs.Documents.Order
import Roster.Proofs.Documents.Record
import Roster.Proofs.Entries

/-!
# `Roster.Proofs.Documents.Commands`: what a command does

A command that reaches the server is noted: it is kept, and the first
fault that waits for its kind is used up (`Server.noted`). The lemmas
`Server.drop_cases`, `Server.insert_cases` and `Server.find_cases` list
what else may happen to a collection; what a client does is put together
from these.

An ordered insert writes the start of its documents and no more
(`Server.insert_writes`).

The first part is about the documents themselves. Those that were made
from records come back as these records, also across the border of two
batches (`Client.decode_batches`) and whatever identifiers they have
(`mapM_toEmployee?_shown`).
-/

set_option autoImplicit false

namespace Roster.Documents

/-! ### Documents of records -/

/-- The document of a record holds that record. -/
theorem Document.toEmployee?_ofEmployee (e : Employee) :
    Document.toEmployee? (Document.ofEmployee e) = some e :=
  Document.toEmployee?_eq_some_iff.mpr ⟨rfl, rfl⟩

/-- Decoding does not see where one batch ends and the next begins. -/
theorem Client.decode_batches (documents : List Document) :
    Client.decode (Server.batches documents) = documents.mapM Document.toEmployee? := by
  unfold Client.decode Server.batches
  -- One batch, or two whose concatenation is all the documents.
  split
  · cases h : documents.mapM Document.toEmployee? <;> simp [h]
  · rw [show documents.mapM Document.toEmployee? = _ from
      (List.take_append_drop firstBatchSize documents).symm ▸ List.mapM_append]
    cases h₁ : (documents.take firstBatchSize).mapM Document.toEmployee? <;>
      cases h₂ : (documents.drop firstBatchSize).mapM Document.toEmployee? <;>
        simp [h₁, h₂]

/-- Decoding does not see identifiers. -/
theorem mapM_toEmployee?_shown (documents : List Document) :
    (documents.map Document.shown).mapM Document.toEmployee? =
      documents.mapM Document.toEmployee? := by
  induction documents with
  | nil => rfl
  | cons d rest ih => rw [List.map_cons, List.mapM_cons, List.mapM_cons, d.toEmployee?_shown, ih]

/-- Identifiers that are made up are not shown. -/
theorem map_shown_identify (first : Nat) (documents : List Document) :
    (Server.identify first documents).map Document.shown = documents.map Document.shown := by
  induction documents generalizing first with
  | nil => rfl
  | cons d rest ih =>
    rw [Server.identify, List.map_cons, List.map_cons, ih]
    congr 1
    unfold Document.identified
    split
    · rfl
    · exact List.filter_cons_of_neg (by simp)

/-- The document of a record is shown as it is. -/
theorem map_shown_ofEmployee (records : List Employee) :
    (records.map Document.ofEmployee).map Document.shown = records.map Document.ofEmployee := by
  rw [List.map_map]
  exact List.map_congr_left fun _ _ => rfl

/-- The documents of some records hold these records. -/
theorem mapM_toEmployee?_map (records : List Employee) :
    (records.map Document.ofEmployee).mapM Document.toEmployee? = some records := by
  induction records with
  | nil => rfl
  | cons e rest ih =>
    rw [List.map_cons, List.mapM_cons, Document.toEmployee?_ofEmployee, ih]
    rfl

namespace Server

/-! ### Collections -/

/-- A collection that is not there has no documents. -/
theorem documents_of_not_has {s : Server} {name : String} (h : s.has name = false) :
    s.documents name = [] := by
  unfold has at h
  unfold documents
  rw [Option.isSome_eq_false_iff, Option.isNone_iff_eq_none] at h
  rw [h]
  rfl

/-- A collection that was dropped has no documents. -/
theorem documents_erase (s : Server) (name : String) : (s.erase name).documents name = [] := by
  have hlookup : (s.erase name).collections.lookup name = none :=
    lookup_filter_self s.collections name
  unfold documents
  rw [hlookup]
  rfl

/-- What is put into a collection comes after what is there. -/
theorem documents_append (s : Server) (name : String) (more : List Document) :
    (s.append name more).documents name = s.documents name ++ more := by
  have hlookup : (s.append name more).collections.lookup name =
      some (s.documents name ++ more) := List.lookup_cons_self
  unfold documents at hlookup ⊢
  rw [hlookup]
  rfl

/-- What is put into a collection comes after what is there, also if it is
nothing. -/
theorem documents_appendAny (s : Server) (name : String) (more : List Document) :
    (s.appendAny name more).documents name = s.documents name ++ more := by
  unfold appendAny
  split
  · rename_i hempty
    rw [List.isEmpty_iff.mp hempty, List.append_nil]
  · exact s.documents_append name more

/-! ### Commands -/

/-- The faults that wait for a kind of command. -/
def waiting (s : Server) (kind : CommandKind) : List Fault :=
  s.faults.filter (·.kind = kind)

/-- No fault waits for a kind of command that none has. -/
theorem waiting_eq_nil_iff {s : Server} {kind : CommandKind} :
    s.waiting kind = [] ↔ ∀ fault ∈ s.faults, fault.kind ≠ kind := by
  simp [waiting]

/-- The server after it noted a command: the command is kept, and the
fault that strikes it is used up. -/
def noted (s : Server) (command : Command) (kind : CommandKind) : Server :=
  ((s.receive command).strike kind).2

/-- Noting a command touches no collection. -/
@[simp]
theorem noted_documents (s : Server) (command : Command) (kind : CommandKind)
    (name : String) : (s.noted command kind).documents name = s.documents name := rfl

/-- Leaving the first element of a kind out leaves the others of the
kind. -/
theorem filter_eraseP {α : Type} (p : α → Bool) (l : List α) :
    (l.eraseP p).filter p = (l.filter p).tail := by
  induction l with
  | nil => rfl
  | cons a rest ih =>
    cases hp : p a with
    | true => rw [List.eraseP_cons_of_pos hp, List.filter_cons_of_pos hp, List.tail_cons]
    | false =>
      have hn : ¬p a := by simp [hp]
      rw [List.eraseP_cons_of_neg hn, List.filter_cons_of_neg hn, List.filter_cons_of_neg hn, ih]

/-- A command uses up the first fault that waits for its kind. -/
theorem waiting_noted (s : Server) (command : Command) (kind : CommandKind) :
    (s.noted command kind).waiting kind = (s.waiting kind).tail :=
  filter_eraseP _ s.faults

/-- A command is struck by the first fault that waits for its kind. -/
theorem strike_eq (s : Server) (command : Command) (kind : CommandKind) :
    (s.receive command).strike kind = ((s.waiting kind).head?, s.noted command kind) := by
  rw [waiting, List.head?_filter]
  rfl

/-- A drop is refused, or removes the collection, or finds none. It is
refused only if a fault waits or the writers are declined. -/
theorem drop_cases (writers : Option Writers) (name : String) (s : Server) :
    (∃ code, (s.waiting .drop ≠ [] ∨ writers.bind s.declinesWriters ≠ none) ∧
      s.drop writers name = (.error code, s.noted (.drop name) .drop)) ∨
    s.drop writers name = (.ok (), (s.noted (.drop name) .drop).erase name) ∨
    (s.has name = false ∧
      s.drop writers name = (.error namespaceNotFound, s.noted (.drop name) .drop)) := by
  unfold drop
  rw [strike_eq]
  cases hwaiting : s.waiting .drop with
  | cons fault rest => exact .inl ⟨fault.code, .inl (by simp), rfl⟩
  | nil =>
    cases hdeclines : writers.bind s.declinesWriters with
    | some code =>
      refine .inl ⟨code, .inr (by simp), ?_⟩
      simp only [List.head?_nil, show writers.bind (s.noted _ _).declinesWriters = _ from hdeclines,
        Option.elim]
    | none =>
      simp only [List.head?_nil, show writers.bind (s.noted _ _).declinesWriters = _ from hdeclines,
        Option.elim]
      cases hhas : s.has name with
      | true => exact .inr (.inl (if_pos hhas))
      | false => exact .inr (.inr ⟨rfl, if_neg (by rw [Bool.not_eq_true]; exact hhas)⟩)

/-- How an insert ends: its answer and the server that it leaves. -/
inductive Inserted (name : String) (ordered : Bool) (more : List Document) (s : Server) :
    InsertAnswer × Server → Prop where
  | stored : Inserted name ordered more s
      (.stored, (s.noted (.insert name ordered more) .insert).append name more)
  | refused (code : Int) : Inserted name ordered more s
      (.refused code, s.noted (.insert name ordered more) .insert)
  | stopped (index : Nat) (code : Int) : Inserted name ordered more s
      (.stopped index code,
        (s.noted (.insert name ordered more) .insert).appendAny name (beside index ordered more))

/-- An insert ends in one of these ways. -/
theorem insert_cases (writers : Option Writers) (name : String) (ordered : Bool)
    (more : List Document) (s : Server) :
    Inserted name ordered more s (s.insert writers name ordered more) := by
  unfold insert
  rw [strike_eq]
  cases (s.waiting .insert).head? with
  | none =>
    simp only
    cases writers.bind (s.noted (.insert name ordered more) .insert).declinesWriters with
    | none => exact .stored
    | some code => exact .refused code
  | some fault =>
    obtain ⟨kind, code, index⟩ := fault
    cases index with
    | none => exact .refused code
    | some index =>
      simp only
      cases writers.bind (s.noted (.insert name ordered more) .insert).declinesWriters with
      | some code => exact .refused code
      | none =>
        simp only [Option.elim]
        -- A fault beyond the last document strikes none of them.
        split
        · exact .stored
        · exact .stopped index code

/-- An insert that nothing is in the way of is stored. -/
theorem insert_of_granted {writers : Option Writers} {s : Server}
    (hwaiting : s.waiting .insert = []) (hdeclines : writers.bind s.declinesWriters = none)
    (name : String) (ordered : Bool) (more : List Document) :
    s.insert writers name ordered more =
      (.stored, (s.noted (.insert name ordered more) .insert).append name more) := by
  unfold insert
  rw [strike_eq, hwaiting]
  simp only [List.head?_nil, show writers.bind (s.noted _ _).declinesWriters = _ from hdeclines,
    Option.elim]

/-- An ordered insert writes the start of its documents, and all of them if
it is answered as stored. -/
theorem insert_writes (writers : Option Writers) (name : String) (more : List Document)
    (s : Server) :
    ∃ count, (s.insert writers name true more).2.documents name =
        s.documents name ++ more.take count ∧
      ((s.insert writers name true more).1 = .stored → more.take count = more) := by
  have hcases := insert_cases writers name true more s
  generalize s.insert writers name true more = run at hcases
  cases hcases with
  | stored =>
    exact ⟨more.length, by rw [documents_append, List.take_length]; rfl,
      fun _ => List.take_length⟩
  | refused code => exact ⟨0, (List.append_nil _).symm, nofun⟩
  | stopped index code => exact ⟨index, documents_appendAny .., nofun⟩

/-- What an insert leaves as it was: whether the server is there, and which
identifier is the next. -/
theorem insert_rests (writers : Option Writers) (name : String) (ordered : Bool)
    (more : List Document) (s : Server) :
    (s.insert writers name ordered more).2.listening = s.listening ∧
      (s.insert writers name ordered more).2.nextId = s.nextId := by
  have hcases := insert_cases writers name ordered more s
  generalize s.insert writers name ordered more = run at hcases
  cases hcases with
  | stored => exact ⟨rfl, rfl⟩
  | refused code => exact ⟨rfl, rfl⟩
  | stopped index code =>
    unfold appendAny
    split <;> exact ⟨rfl, rfl⟩

/-- A find is struck by the first fault that waits for it, or declined, or
it hands out the documents that it asks for. -/
theorem find_cases (level : Option String) (name : String) (filter : Document) (sort : String)
    (s : Server) :
    (∃ fault rest, s.waiting .find = fault :: rest ∧
      s.find level name filter sort =
        (.error fault.code, s.noted (.find name filter sort) .find)) ∨
    (∃ code, level.bind s.declinesLevel = some code ∧
      s.find level name filter sort = (.error code, s.noted (.find name filter sort) .find)) ∨
    (s.waiting .find = [] ∧ level.bind s.declinesLevel = none ∧
      s.find level name filter sort =
        (.ok (batches (s.found name filter sort)), s.noted (.find name filter sort) .find)) := by
  unfold find
  rw [strike_eq]
  cases hwaiting : s.waiting .find with
  | cons fault rest => exact .inl ⟨fault, rest, rfl, rfl⟩
  | nil =>
    cases hdeclines : level.bind s.declinesLevel with
    | some code =>
      refine .inr (.inl ⟨code, rfl, ?_⟩)
      simp only [List.head?_nil, show level.bind (s.noted _ _).declinesLevel = _ from hdeclines,
        Option.elim]
    | none =>
      refine .inr (.inr ⟨rfl, rfl, ?_⟩)
      simp only [List.head?_nil, show level.bind (s.noted _ _).declinesLevel = _ from hdeclines,
        Option.elim]
      rfl

/-- Without a filter, all documents of a collection are found. -/
theorem found_all (name sort : String) (s : Server) :
    s.found name [] sort = (s.documents name).mergeSort (Document.before sort) := by
  have hall : (s.documents name).filter (Document.fits [] ·) = s.documents name :=
    List.filter_eq_self.mpr fun _ _ => rfl
  rw [found, hall]

end Server

end Roster.Documents
