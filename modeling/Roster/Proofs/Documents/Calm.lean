import Roster.Proofs.Documents.Collection

/-!
# `Roster.Proofs.Documents.Calm`: a collection while nothing goes wrong

While the server takes the client's terms, no fault is to come and the
collection is in order (`Client.Calm`), a client's collection is the plain
list: `Client.perform_of_calm` gives every answer, and the server is as
calm afterwards.
-/

set_option autoImplicit false

namespace Roster.Documents.Client

open Store (Operation)

variable {c : Client} {s : Server}

/-- The server is there and takes the client's terms, no fault is to come,
and the collection is in order. -/
structure Calm (c : Client) (s : Server) : Prop where
  reachable : c.reachable = true
  listening : s.listening = true
  faults : s.faults = []
  acknowledges : c.terms.acknowledges = true
  takesWriters : c.terms.writers.bind s.declinesWriters = none
  takesLevel : c.terms.level.bind s.declinesLevel = none
  ordered : c.Ordered s

/-- A client that reaches its server has its command carried out. -/
theorem connected_of_reachable {α : Type} {act : Access Server α} (hc : c.reachable = true)
    (hs : s.listening = true) : c.connected act s = act s := by
  simp [connected, hc, hs]

/-- A calm client has its writes carried out. -/
theorem Calm.writing_eq {α : Type} (h : c.Calm s) (act : Access Server α) :
    c.writing act s = act s := by
  rw [writing, if_pos h.acknowledges, connected_of_reachable h.reachable h.listening]

/-- No fault waits for a calm client. -/
theorem Calm.waiting (h : c.Calm s) (kind : CommandKind) : s.waiting kind = [] := by
  rw [Server.waiting, h.faults, List.filter_nil]

/-- Noting a command lets no fault come up. -/
theorem Calm.noted (h : c.Calm s) (command : Command) (kind : CommandKind) :
    c.Calm (s.noted command kind) :=
  { h with
    faults := by
      show s.faults.eraseP _ = []
      rw [h.faults, List.eraseP_nil] }

/-- A calm drop removes the collection, or finds none. -/
theorem Calm.drop_cases (h : c.Calm s) :
    s.drop c.terms.writers c.place.name =
        (.ok (), (s.noted (.drop c.place.name) .drop).erase c.place.name) ∨
      (s.has c.place.name = false ∧ s.drop c.terms.writers c.place.name =
        (.error namespaceNotFound, s.noted (.drop c.place.name) .drop)) := by
  rcases s.drop_cases c.terms.writers c.place.name with ⟨_, hrefuses, _⟩ | hdone
  · exact absurd (hrefuses.resolve_left (not_not_intro (h.waiting .drop)))
      (not_not_intro h.takesWriters)
  · exact hdone

/-- A calm server is candid. -/
theorem Calm.candid (h : c.Calm s) : c.Candid s := by
  intro hanswer
  rcases h.drop_cases with hdrop | ⟨hhas, _⟩
  · exact nomatch hdrop ▸ hanswer
  · exact hhas

/-- A calm clear succeeds. -/
theorem clear_of_calm (h : c.Calm s) : ∃ s', c.clear s = (.ok (), s') ∧ c.Calm s' := by
  rw [clear, h.writing_eq]
  have hnoted := h.noted (.drop c.place.name) .drop
  rcases h.drop_cases with hdrop | ⟨_, hdrop⟩
  · refine ⟨(s.noted (.drop c.place.name) .drop).erase c.place.name, by simp only [hdrop],
      { hnoted with ordered := ?_ }⟩
    unfold Ordered
    rw [Server.documents_erase]
    exact .nil _
  · exact ⟨_, by simp only [hdrop, if_true], hnoted⟩

/-- A calm insert succeeds. -/
theorem insert_of_calm (h : c.Calm s) (batch : List Employee) :
    ∃ s', c.insert batch s = (.ok batch.length, s') ∧ c.Calm s' := by
  have hordered := (c.insert_rests batch s).2 h.ordered
  unfold insert at hordered ⊢
  split
  · rename_i hempty
    exact ⟨s, by rw [List.isEmpty_iff.mp hempty]; rfl, h⟩
  · rename_i hempty
    have hinsert := Server.insert_of_granted (s := s.countUp batch.length)
      (h.waiting .insert) h.takesWriters c.place.name true (newDocuments s batch)
    rw [if_neg hempty] at hordered
    rw [h.writing_eq, hinsert] at hordered ⊢
    have hnoted := h.noted (.insert c.place.name true (newDocuments s batch)) .insert
    exact ⟨_, rfl, { hnoted with ordered := hordered }⟩

/-- A listing that nothing is in the way of shows the records whose
documents the collection holds, if these are in order. -/
theorem all_of_granted {records : List Employee} (hc : c.reachable = true)
    (hs : s.listening = true) (hwaiting : s.waiting .find = [])
    (hgranted : c.terms.level.bind s.declinesLevel = none) (hordered : c.Ordered s)
    (hkept : c.kept s = records.map Document.ofEmployee) :
    c.all s = (.ok records, c.asked s) := by
  rcases s.find_cases c.terms.level c.place.name [] Document.idName with
    ⟨_, _, hfault, _⟩ | ⟨_, hdeclines, _⟩ | ⟨_, _, hfind⟩
  · exact nomatch hfault.symm.trans hwaiting
  · exact nomatch hdeclines.symm.trans hgranted
  · have hread : (c.listed s).mapM Document.toEmployee? = some records := by
      rw [hordered.mapM_listed, hkept, mapM_toEmployee?_map]
    have hsearch : c.search s = (.ok (Server.batches (c.listed s)), c.asked s) := by
      simp only [search, show c.ask s = _ from hfind]
      rfl
    rw [all, connected_of_reachable hc hs]
    simp only [hsearch, decode_batches, hread]

/-- While nothing goes wrong a collection answers like the plain
list. -/
theorem perform_of_calm (h : c.Calm s) {records : List Employee}
    (hkept : c.kept s = records.map Document.ofEmployee) (operation : Operation) :
    ∃ s', c.store.perform operation s = (.ok (operation.answer records), s') ∧ c.Calm s' := by
  cases operation with
  | clear =>
    obtain ⟨s', hclear, hcalm⟩ := clear_of_calm h
    exact ⟨s', Access.map_eq_ok.mpr ⟨(), hclear, rfl⟩, hcalm⟩
  | insert batch =>
    obtain ⟨s', hinsert, hcalm⟩ := insert_of_calm h batch
    exact ⟨s', Access.map_eq_ok.mpr ⟨_, hinsert, rfl⟩, hcalm⟩
  | replace batch =>
    obtain ⟨middle, hclear, hmiddle⟩ := clear_of_calm h
    obtain ⟨s', hinsert, hcalm⟩ := insert_of_calm hmiddle batch
    exact ⟨s', Access.map_eq_ok.mpr
      ⟨_, Access.andThen_eq_ok.mpr ⟨(), middle, hclear, hinsert⟩, rfl⟩, hcalm⟩
  | all =>
    have hall := all_of_granted h.reachable h.listening (h.waiting .find) h.takesLevel
      h.ordered hkept
    exact ⟨_, Access.map_eq_ok.mpr ⟨_, hall, rfl⟩, h.noted ..⟩

end Roster.Documents.Client
