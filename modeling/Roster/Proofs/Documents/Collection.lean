import Roster.Proofs.Documents.Commands
import Roster.Proofs.Store.TwoStep

/-!
# `Roster.Proofs.Documents.Collection`: records in a collection

What a client's operations do to the documents of its collection.
`Client.clear_cases`, `Client.insert_cases` and `Client.all_cases` list
the ends of a client's operations, and the other facts on a client follow
from these. A listing can take two commands: a fault that passes by itself
does not count if it is the only one that waits (`Client.Passes`).

What a client keeps is read without the identifiers, in the order in which
it came (`Client.kept`). It is listed by identifier (`Client.listed`);
that is the same order if the identifiers are ascending, as those are that
clients make up (`Client.Ordered`).

A drop that finds no collection counts as done. So clearing has emptied
the collection only if the server says so truthfully
(`Client.Candid`): it answers that there is no such collection only if
there is none. With that, `Client.store_twoStep` shows that a client
keeps what a store promises that replaces in two steps.
-/

set_option autoImplicit false

namespace Roster.Documents

open Store (Operation)

namespace Client

variable {c : Client} {s s' : Server}

/-- What the client's collection holds, without identifiers. -/
def kept (c : Client) (s : Server) : List Document :=
  (s.documents c.place.name).map Document.shown

/-- The same documents are kept. -/
theorem kept_of_documents (h : s'.documents c.place.name = s.documents c.place.name) :
    c.kept s' = c.kept s :=
  congrArg (List.map Document.shown) h

/-- What is kept when documents are added. -/
theorem kept_of_append {added : List Document}
    (h : s'.documents c.place.name = s.documents c.place.name ++ added) :
    c.kept s' = c.kept s ++ added.map Document.shown := by
  unfold kept
  rw [h, List.map_append]

/-- The documents that the client's collection holds, by identifier. -/
def listed (c : Client) (s : Server) : List Document :=
  s.found c.place.name [] Document.idName

/-- By identifier stand the documents of the collection, in another order. -/
theorem listed_perm (c : Client) (s : Server) :
    (c.listed s).Perm (s.documents c.place.name) := by
  rw [listed, Server.found_all]
  exact List.mergeSort_perm _ _

/-- The documents of the client's collection have identifiers that clients
made up, ascending in the order in which they came. -/
def Ordered (c : Client) (s : Server) : Prop :=
  Ascending s.nextId (s.documents c.place.name)

/-- An empty collection is in order. -/
theorem ordered_of_nil (h : s.documents c.place.name = []) : c.Ordered s := by
  unfold Ordered
  rw [h]
  exact .nil s.nextId

/-- What is in order is listed as it came. -/
theorem Ordered.listed_eq (h : c.Ordered s) : c.listed s = s.documents c.place.name := by
  unfold listed
  rw [Server.found_all, h.mergeSort_eq]

/-- What is in order is read as it is kept. -/
theorem Ordered.mapM_listed (h : c.Ordered s) :
    (c.listed s).mapM Document.toEmployee? = (c.kept s).mapM Document.toEmployee? := by
  rw [h.listed_eq, kept, mapM_toEmployee?_shown]

/-- The server answers a drop with "no such collection" only if there is
none. -/
def Candid (c : Client) (s : Server) : Prop :=
  (s.drop c.terms.writers c.place.name).1 = .error namespaceNotFound →
    s.has c.place.name = false

/-- An operation reaches the server, or fails without a trace. -/
theorem connected_cases {α : Type} (c : Client) (act : Access Server α) (s : Server) :
    (c.reachable = true ∧ s.listening = true) ∧ c.connected act s = act s ∨
      ¬(c.reachable = true ∧ s.listening = true) ∧
        c.connected act s = (.error (.documents .unreachable), s) := by
  unfold connected
  rw [← Bool.and_eq_true_iff]
  split
  · rename_i hreach
    exact Or.inl ⟨hreach, rfl⟩
  · rename_i hreach
    exact Or.inr ⟨hreach, rfl⟩

/-- A write reaches the server, or fails without a trace. -/
theorem writing_cases {α : Type} (c : Client) (act : Access Server α) (s : Server) :
    (c.reachable = true ∧ s.listening = true) ∧ c.writing act s = act s ∨
      ∃ cause, c.writing act s = (.error (.documents cause), s) := by
  unfold writing
  split
  · exact (connected_cases c act s).imp_right fun h => ⟨_, h.2⟩
  · exact .inr ⟨_, rfl⟩

/-- How a clear ends: its answer and the server that it leaves. -/
inductive Cleared (c : Client) (s : Server) : Except StoreError Unit × Server → Prop where
  | unsent (cause : DocumentError) : Cleared c s (.error (.documents cause), s)
  | refused (code : Int) :
      Cleared c s (.error (.documents (.command code)), s.noted (.drop c.place.name) .drop)
  | dropped (hc : c.reachable = true) (hs : s.listening = true) :
      Cleared c s (.ok (), (s.noted (.drop c.place.name) .drop).erase c.place.name)
  /-- The server says that there is no such collection. -/
  | missing (hc : c.reachable = true) (hs : s.listening = true)
      (hanswer : (s.drop c.terms.writers c.place.name).1 = .error namespaceNotFound) :
      Cleared c s (.ok (), s.noted (.drop c.place.name) .drop)

/-- A clear ends in one of these ways. -/
theorem clear_cases (c : Client) (s : Server) : Cleared c s (c.clear s) := by
  rcases writing_cases c _ s with ⟨⟨hc, hs⟩, hreach⟩ | ⟨cause, hreach⟩ <;> rw [clear, hreach]
  · rcases Server.drop_cases c.terms.writers c.place.name s with
      ⟨code, _, hdrop⟩ | hdrop | ⟨_, hdrop⟩ <;> simp only [hdrop]
    · -- A refusal can have the code that counts as done.
      split
      · rename_i hcode
        exact .missing hc hs (by rw [hdrop, hcode])
      · exact .refused code
    · exact .dropped hc hs
    · rw [if_pos trivial]
      exact .missing hc hs (by rw [hdrop])
  · exact .unsent cause

/-- A clear that succeeds leaves no document, if the server is candid. -/
theorem documents_of_clear (h : c.Candid s) (hrun : c.clear s = (.ok (), s')) :
    s'.documents c.place.name = [] := by
  have hcases := c.clear_cases s
  rw [hrun] at hcases
  cases hcases with
  | dropped _ _ => exact Server.documents_erase _ _
  | missing _ _ hanswer => exact Server.documents_of_not_has (h hanswer)

/-- A clear that succeeds leaves nothing, if the server is candid. -/
theorem clear_eq_ok (h : c.Candid s) (hrun : c.clear s = (.ok (), s')) : c.kept s' = [] := by
  rw [kept, documents_of_clear h hrun, List.map_nil]

/-- A clear that fails has at most used up the fault that struck it. -/
theorem clear_eq_error {e : StoreError} (hrun : c.clear s = (.error e, s')) :
    s' = s ∨ s' = s.noted (.drop c.place.name) .drop := by
  have hcases := c.clear_cases s
  rw [hrun] at hcases
  cases hcases with
  | unsent cause => exact Or.inl rfl
  | refused code => exact Or.inr rfl

/-- Only a server that is there can be cleared. -/
theorem reachable_of_clear (hrun : c.clear s = (.ok (), s')) :
    c.reachable = true ∧ s'.listening = true := by
  have hcases := c.clear_cases s
  rw [hrun] at hcases
  cases hcases with
  | dropped hc hs => exact ⟨hc, hs⟩
  | missing hc hs _ => exact ⟨hc, hs⟩

/-- Sends the documents of a batch to the server. -/
def send (c : Client) (batch : List Employee) (s : Server) : Server.InsertAnswer × Server :=
  (s.countUp batch.length).insert c.terms.writers c.place.name true (newDocuments s batch)

/-- How an insert of a batch ends: its answer and the server that it
leaves. -/
inductive Sent (c : Client) (batch : List Employee) (s : Server) :
    Except StoreError Nat × Server → Prop where
  /-- No command is sent for no records. -/
  | nothing (h : batch = []) : Sent c batch s (.ok 0, s)
  | unsent (cause : DocumentError) : Sent c batch s (.error (.documents cause), s)
  | stored (h : (c.send batch s).1 = .stored) :
      Sent c batch s (.ok batch.length, (c.send batch s).2)
  | failed (cause : DocumentError) :
      Sent c batch s (.error (.documents cause), (c.send batch s).2)

/-- An insert ends in one of these ways. -/
theorem insert_cases (c : Client) (batch : List Employee) (s : Server) :
    Sent c batch s (c.insert batch s) := by
  unfold insert
  split
  · rename_i hempty
    exact .nothing (List.isEmpty_iff.mp hempty)
  · rcases writing_cases c _ s with ⟨_, hreach⟩ | ⟨cause, hreach⟩ <;> rw [hreach]
    · have hstored : _ → Sent c batch s (.ok batch.length, _) := .stored
      have hfailed : ∀ cause, Sent c batch s (.error (.documents cause), _) := .failed
      -- The answer of the server decides which of the two it is.
      cases hanswer : c.send batch s with
      | mk answer after =>
        rw [hanswer] at hstored hfailed
        simp only [show Server.insert _ _ _ _ _ = _ from hanswer]
        cases answer with
        | stored => exact hstored rfl
        | refused code => exact hfailed (.command code)
        | stopped index code => exact hfailed (.write index code)
    · exact .unsent cause

/-- The documents of a batch that are sent come from the start of it, and
are all of them if the server stores them. -/
theorem send_writes (c : Client) (batch : List Employee) (s : Server) :
    ∃ count, (c.send batch s).2.documents c.place.name =
        s.documents c.place.name ++ (newDocuments s batch).take count ∧
      ((c.send batch s).1 = .stored → (newDocuments s batch).take count = newDocuments s batch) :=
  Server.insert_writes c.terms.writers c.place.name (newDocuments s batch)
    (s.countUp batch.length)

/-- New documents are shown as those of their records. -/
theorem map_shown_newDocuments (s : Server) (batch : List Employee) :
    (newDocuments s batch).map Document.shown = batch.map Document.ofEmployee := by
  rw [newDocuments, map_shown_identify, map_shown_ofEmployee]

/-- The document of a record has no identifier before it is sent. -/
theorem not_any_ofEmployee (batch : List Employee) :
    ∀ d ∈ batch.map Document.ofEmployee, d.any (·.1 = Document.idName) = false := by
  intro d hd
  obtain ⟨e, -, rfl⟩ := List.mem_map.mp hd
  rfl

/-- An insert does not make the server go away, and keeps its collection in
order. -/
theorem insert_rests (c : Client) (batch : List Employee) (s : Server) :
    (c.insert batch s).2.listening = s.listening ∧
      (c.Ordered s → c.Ordered (c.insert batch s).2) := by
  have hcases := c.insert_cases batch s
  -- Whatever was written came from the start of the batch.
  have hsent : (c.send batch s).2.listening = s.listening ∧
      (c.Ordered s → c.Ordered (c.send batch s).2) := by
    obtain ⟨hlistening, hnext⟩ := Server.insert_rests c.terms.writers c.place.name true
      (newDocuments s batch) (s.countUp batch.length)
    refine ⟨hlistening, fun h => ?_⟩
    obtain ⟨count, hwritten, -⟩ := c.send_writes batch s
    have hall := Ascending.append h (not_any_ofEmployee batch)
    unfold Ordered
    rw [hwritten, show (c.send batch s).2.nextId = s.nextId + batch.length from hnext]
    rw [List.length_map] at hall
    exact hall.sublist ((List.take_sublist ..).append_left _)
  generalize c.insert batch s = run at hcases
  cases hcases with
  | nothing _ => exact ⟨rfl, id⟩
  | unsent _ => exact ⟨rfl, id⟩
  | stored _ => exact hsent
  | failed _ => exact hsent

/-- An insert that succeeds adds the documents of the batch at the
end. -/
theorem insert_eq_ok {batch : List Employee} {n : Nat}
    (hrun : c.insert batch s = (.ok n, s')) :
    n = batch.length ∧ c.kept s' = c.kept s ++ batch.map Document.ofEmployee := by
  have hcases := c.insert_cases batch s
  rw [hrun] at hcases
  cases hcases with
  | nothing h =>
    subst h
    exact ⟨rfl, (List.append_nil _).symm⟩
  | stored h =>
    obtain ⟨count, hwritten, hall⟩ := c.send_writes batch s
    rw [hall h] at hwritten
    exact ⟨rfl, by rw [kept_of_append hwritten, map_shown_newDocuments]⟩

/-- An insert that fails adds the documents of the start of the
batch. -/
theorem insert_eq_error {batch : List Employee} {e : StoreError}
    (hrun : c.insert batch s = (.error e, s')) :
    ∃ written, written <+: batch ∧
      c.kept s' = c.kept s ++ written.map Document.ofEmployee := by
  have hcases := c.insert_cases batch s
  rw [hrun] at hcases
  cases hcases with
  | unsent _ => exact ⟨[], List.nil_prefix, (List.append_nil _).symm⟩
  | failed _ =>
    obtain ⟨count, hwritten, _⟩ := c.send_writes batch s
    refine ⟨batch.take count, List.take_prefix _ _, ?_⟩
    rw [kept_of_append hwritten, List.map_take, map_shown_newDocuments, List.map_take]

/-! ### Listing -/

/-- The faults that wait for a listing let it pass: there are none, or a
single one that passes by itself and the client asks again. -/
def Passes (c : Client) (s : Server) : Prop :=
  s.waiting .find = [] ∨
    c.terms.retriesReads = true ∧
      ∃ fault, s.waiting .find = [fault] ∧ fault.code ∈ passingCodes

/-- The client reaches a server that has nothing in the way of a listing:
neither does it decline the certainty, nor do its faults keep it up. -/
structure Answers (c : Client) (s : Server) : Prop where
  reachable : c.reachable = true
  listening : s.listening = true
  granted : c.terms.level.bind s.declinesLevel = none
  passes : c.Passes s

/-- The server after the client asked for its documents. -/
def asked (c : Client) (s : Server) : Server :=
  s.noted (.find c.place.name [] Document.idName) .find

/-- How asking for all documents ends: the answer and the server that it
leaves, after one command or after two. -/
inductive Searched (c : Client) (s : Server) :
    Except Int (List (List Document)) × Server → Prop where
  | refused (h : ¬(c.terms.level.bind s.declinesLevel = none ∧ c.Passes s)) (code : Int) :
      Searched c s (.error code, c.asked s)
  | refusedAgain (h : ¬(c.terms.level.bind s.declinesLevel = none ∧ c.Passes s)) (code : Int) :
      Searched c s (.error code, c.asked (c.asked s))
  | found (h : c.terms.level.bind s.declinesLevel = none ∧ c.Passes s) :
      Searched c s (.ok (Server.batches (c.listed s)), c.asked s)
  | foundAgain (h : c.terms.level.bind s.declinesLevel = none ∧ c.Passes s) :
      Searched c s (.ok (Server.batches (c.listed s)), c.asked (c.asked s))

/-- A listing that was struck is tried again if the error may pass and the
client was not told otherwise. -/
theorem search_of_error {code : Int} (h : c.ask s = (.error code, s')) :
    c.search s = if c.terms.retriesReads = true ∧ code ∈ passingCodes then c.ask s'
      else (.error code, s') := by
  simp only [search, h, Bool.and_eq_true, List.contains_iff_mem]

/-- Asking for all documents ends in one of these ways. -/
theorem search_cases (c : Client) (s : Server) : Searched c s (c.search s) := by
  rcases s.find_cases c.terms.level c.place.name [] Document.idName with
    ⟨fault, rest, hwaiting, hask⟩ | ⟨code, hdeclines, hask⟩ | ⟨hwaiting, hgranted, hask⟩
  · -- A fault strikes. Whether the second try, if there is one, succeeds
    -- depends on the faults behind it.
    rw [search_of_error (show c.ask s = (.error fault.code, c.asked s) from hask)]
    split
    · rename_i hagain
      have hrest : (c.asked s).waiting .find = rest := by
        rw [asked, Server.waiting_noted, hwaiting, List.tail_cons]
      rcases (c.asked s).find_cases c.terms.level c.place.name [] Document.idName with
        ⟨fault', rest', hwaiting', hask'⟩ | ⟨code, hdeclines, hask'⟩ | ⟨hwaiting', hgranted, hask'⟩
      · rw [show c.ask (c.asked s) = _ from hask']
        refine .refusedAgain (fun ⟨_, hpasses⟩ => ?_) fault'.code
        rw [hrest] at hwaiting'
        rcases hpasses with hnone | ⟨_, fault, hone, _⟩
        · exact nomatch hwaiting.symm.trans hnone
        · exact nomatch hwaiting' ▸ hwaiting.symm.trans hone
      · have hdeclined : c.terms.level.bind s.declinesLevel = some code := hdeclines
        rw [show c.ask (c.asked s) = _ from hask']
        exact .refusedAgain (fun ⟨hnone, _⟩ => nomatch hdeclined.symm.trans hnone) code
      · rw [show c.ask (c.asked s) = _ from hask']
        rw [hrest] at hwaiting'
        exact .foundAgain ⟨hgranted, .inr ⟨hagain.1, fault, hwaiting' ▸ hwaiting, hagain.2⟩⟩
    · rename_i hnot
      refine .refused (fun ⟨_, hpasses⟩ => ?_) fault.code
      rcases hpasses with hnone | ⟨hretries, fault', hone, hpassing⟩
      · exact nomatch hwaiting.symm.trans hnone
      · obtain ⟨rfl, _⟩ := List.cons.inj (hwaiting.symm.trans hone)
        exact hnot ⟨hretries, hpassing⟩
  · have hrefused : ¬(c.terms.level.bind s.declinesLevel = none ∧ c.Passes s) :=
      fun h => nomatch hdeclines.symm.trans h.1
    rw [search_of_error (show c.ask s = (.error code, c.asked s) from hask)]
    split
    · -- What was declined is declined again, if it is not struck.
      rcases (c.asked s).find_cases c.terms.level c.place.name [] Document.idName with
        ⟨fault', rest', _, hask'⟩ | ⟨code', _, hask'⟩ | ⟨_, hgranted, _⟩
      · rw [show c.ask (c.asked s) = _ from hask']
        exact .refusedAgain hrefused fault'.code
      · rw [show c.ask (c.asked s) = _ from hask']
        exact .refusedAgain hrefused code'
      · exact nomatch hdeclines.symm.trans hgranted
    · exact .refused hrefused code
  · simp only [search, show c.ask s = _ from hask]
    exact .found ⟨hgranted, .inl hwaiting⟩

/-- How a listing ends: its answer and the server that it leaves, which was
asked not at all, once or twice. -/
inductive Listed (c : Client) (s : Server) :
    Except StoreError (List Employee) × Server → Prop where
  | unreachable (h : ¬c.Answers s) : Listed c s (.error (.documents .unreachable), s)
  | refused (h : ¬c.Answers s) (code : Int) {s' : Server}
      (hasked : s' = c.asked s ∨ s' = c.asked (c.asked s)) :
      Listed c s (.error (.documents (.command code)), s')
  | undecodable (h : c.Answers s) (hread : (c.listed s).mapM Document.toEmployee? = none)
      {s' : Server} (hasked : s' = c.asked s ∨ s' = c.asked (c.asked s)) :
      Listed c s (.error (.documents .undecodable), s')
  | listed (h : c.Answers s) {records : List Employee}
      (hread : (c.listed s).mapM Document.toEmployee? = some records) {s' : Server}
      (hasked : s' = c.asked s ∨ s' = c.asked (c.asked s)) :
      Listed c s (.ok records, s')

/-- A listing ends in one of these ways. -/
theorem all_cases (c : Client) (s : Server) : Listed c s (c.all s) := by
  rcases c.connected_cases _ s with ⟨⟨hc, hs⟩, hall⟩ | ⟨hreach, hall⟩ <;> rw [all, hall]
  · -- What was found is decoded, after one command or after two.
    have hfound {s' : Server} {run : Except StoreError (List Employee) × Server}
        (h : c.terms.level.bind s.declinesLevel = none ∧ c.Passes s)
        (hasked : s' = c.asked s ∨ s' = c.asked (c.asked s))
        (hsome : ∀ records, decode (Server.batches (c.listed s)) = some records →
          run = (.ok records, s'))
        (hnone : decode (Server.batches (c.listed s)) = none →
          run = (.error (.documents .undecodable), s')) : Listed c s run := by
      rw [decode_batches] at hsome hnone
      cases hread : (c.listed s).mapM Document.toEmployee? with
      | none => exact hnone hread ▸ .undecodable ⟨hc, hs, h.1, h.2⟩ hread hasked
      | some records => exact hsome records hread ▸ .listed ⟨hc, hs, h.1, h.2⟩ hread hasked
    have hsearch := c.search_cases s
    generalize c.search s = run at hsearch
    cases hsearch with
    | refused h code => exact .refused (fun ha => h ⟨ha.granted, ha.passes⟩) code (.inl rfl)
    | refusedAgain h code => exact .refused (fun ha => h ⟨ha.granted, ha.passes⟩) code (.inr rfl)
    | found h =>
      exact hfound h (.inl rfl) (fun _ hread => by simp only [hread])
        fun hread => by simp only [hread]
    | foundAgain h =>
      exact hfound h (.inr rfl) (fun _ hread => by simp only [hread])
        fun hread => by simp only [hread]
  · exact .unreachable fun h => hreach ⟨h.reachable, h.listening⟩

/-- Listing leaves everything as it was, but for what is known of commands
and of faults. -/
theorem all_rests (c : Client) (s : Server) :
    (c.all s).2.collections = s.collections ∧ (c.all s).2.listening = s.listening ∧
      (c.all s).2.nextId = s.nextId := by
  have hcases := c.all_cases s
  generalize c.all s = run at hcases
  cases hcases with
  | unreachable _ => exact ⟨rfl, rfl, rfl⟩
  | refused _ _ h => rcases h with rfl | rfl <;> exact ⟨rfl, rfl, rfl⟩
  | undecodable _ _ h => rcases h with rfl | rfl <;> exact ⟨rfl, rfl, rfl⟩
  | listed _ _ h => rcases h with rfl | rfl <;> exact ⟨rfl, rfl, rfl⟩

/-- Listing touches no collection. -/
theorem all_kept (c : Client) (s : Server) : c.kept (c.all s).2 = c.kept s :=
  kept_of_documents (by unfold Server.documents; rw [(c.all_rests s).1])

/-- A client keeps what a store promises that replaces in two steps. -/
theorem store_twoStep (c : Client) :
    c.store.TwoStep c.Candid c.kept Document.ofEmployee where
  replace_eq := rfl
  clear_ok h hrun := clear_eq_ok h hrun
  clear_error hrun := by
    rcases clear_eq_error hrun with h | h <;> rw [h]
    exact kept_of_documents (Server.noted_documents ..)
  insert_ok hrun := insert_eq_ok hrun
  insert_error hrun := insert_eq_error hrun

/-- A client's store follows the list, if the server is candid. -/
theorem store_follows (operation : Operation) (h : c.Candid s) :
    c.store.Follows c.kept Document.ofEmployee operation s := by
  refine c.store_twoStep.follows ?_ operation h
  intro records s s' hrun
  have hall := all_kept c s
  rw [show c.all s = _ from hrun] at hall
  exact hall

end Client

end Roster.Documents
