import Roster.Documents.Order
import Roster.Documents.Terms

/-!
# `Roster.Documents.Server`: a document server

A server keeps collections of documents, each in a database. A
collection comes into being when something is put into it and is gone
when it is dropped. The server knows three commands: it drops a
collection, appends documents to one, and finds those documents of one
that fit a filter, ordered by the values of a name. What it finds it hands
out in two batches.

A queue of faults lets commands fail. A fault waits for one of the
three commands and strikes the next one, once. An insert can also fail
half way: it then refuses the document at some index and stores those
before it, and those after it too if it is not ordered. Which terms a
server declines is its own affair (`declinesWriters`, `declinesLevel`);
it declines nothing that is not asked for.
-/

set_option autoImplicit false

namespace Roster.Documents

/-- The place of a collection: its database and its name there. -/
structure Namespace where
  database : String
  collection : String
deriving DecidableEq, Repr

/-- The name by which a server knows a collection. -/
def Namespace.name (ns : Namespace) : String :=
  ns.database ++ "." ++ ns.collection

/-- The kinds of command. -/
inductive CommandKind where
  | drop
  | insert
  | find
deriving DecidableEq, Repr

/-- A command as the server receives it. An ordered insert stops at the
first document that is refused. A find asks for the documents that fit a
filter, ordered by the values of the name `sort`. -/
inductive Command where
  | drop (collection : String)
  | insert (collection : String) (ordered : Bool) (documents : List Document)
  | find (collection : String) (filter : Document) (sort : String)

/-- A fault that waits for a command. With an `index`, an insert fails
there. -/
structure Fault where
  kind : CommandKind
  code : Int
  index : Option Nat
deriving DecidableEq, Repr

/-- The code of the answer to a command on a collection that is not
there. -/
def namespaceNotFound : Int :=
  26

/-- How many documents the first batch of an answer holds. -/
def firstBatchSize : Nat :=
  101

/-- The state of a document server. Collections have their dotted name;
commands are kept in the order of their arrival. -/
structure Server where
  /-- Host and service, with a colon between them. -/
  address : String
  /-- Whether the server takes connections. -/
  listening : Bool
  collections : List (String × List Document)
  /-- The number of the next identifier. Clients make identifiers up in
  ascending order. -/
  nextId : Nat
  faults : List Fault
  received : List Command
  /-- The code with which a write is declined for those who have to
  acknowledge it. -/
  declinesWriters : Writers → Option Int := fun _ => none
  /-- The code with which a listing is declined for its certainty. -/
  declinesLevel : String → Option Int := fun _ => none
deriving Inhabited

namespace Server

/-- A server with no collection. -/
def empty (address : String) (listening : Bool) : Server where
  address
  listening
  collections := []
  nextId := 0
  faults := []
  received := []

/-- The documents of a collection. A collection that is not there has
none. -/
def documents (s : Server) (collection : String) : List Document :=
  (s.collections.lookup collection).getD []

/-- Whether a collection is there. -/
def has (s : Server) (collection : String) : Bool :=
  (s.collections.lookup collection).isSome

/-- The server without a collection. -/
def erase (s : Server) (collection : String) : Server :=
  { s with collections := s.collections.filter (·.1 ≠ collection) }

/-- The server with more documents at the end of a collection, which
comes into being if it is not there. -/
def append (s : Server) (collection : String) (more : List Document) : Server :=
  { s with
    collections := (collection, s.documents collection ++ more) ::
      s.collections.filter (·.1 ≠ collection) }

/-- The server after it received a command. -/
def receive (s : Server) (command : Command) : Server :=
  { s with received := s.received ++ [command] }

/-- The fault that strikes a command, and the server without it. -/
def strike (s : Server) (kind : CommandKind) : Option Fault × Server :=
  (s.faults.find? (·.kind = kind), { s with faults := s.faults.eraseP (·.kind = kind) })

/-- The server with one more fault in the queue. -/
def enqueue (s : Server) (fault : Fault) : Server :=
  { s with faults := s.faults ++ [fault] }

/-- The documents with identifiers, counted up from a first one. -/
def identify (first : Nat) : List Document → List Document
  | [] => []
  | d :: rest => d.identified first :: identify (first + 1) rest

/-- The server after a client made up some identifiers. -/
def countUp (s : Server) (count : Nat) : Server :=
  { s with nextId := s.nextId + count }

/-- Drops a collection. The answer is an error code if there was no
such collection, if the writers are declined, or if a fault strikes; then
nothing is dropped. -/
def drop (writers : Option Writers) (collection : String) (s : Server) :
    Except Int Unit × Server :=
  match (s.receive (.drop collection)).strike .drop with
  | (some fault, s) => (.error fault.code, s)
  | (none, s) =>
    (writers.bind s.declinesWriters).elim
      (if s.has collection then (.ok (), s.erase collection) else (.error namespaceNotFound, s))
      fun code => (.error code, s)

/-- The answer to an insert: all was stored, the command was refused,
or the document at an index was. -/
inductive InsertAnswer where
  | stored
  | refused (code : Int)
  | stopped (index : Nat) (code : Int)
deriving DecidableEq, Repr

/-- Appends documents to a collection, if there are any. -/
def appendAny (s : Server) (collection : String) (documents : List Document) : Server :=
  if documents.isEmpty then s else s.append collection documents

/-- The documents that are stored if the one at an index is refused. -/
def beside (index : Nat) (ordered : Bool) (documents : List Document) : List Document :=
  if ordered then documents.take index else documents.eraseIdx index

/-- Appends documents to a collection. -/
def insert (writers : Option Writers) (collection : String) (ordered : Bool)
    (documents : List Document) (s : Server) : InsertAnswer × Server :=
  match (s.receive (.insert collection ordered documents)).strike .insert with
  | (some ⟨_, code, none⟩, s) => (.refused code, s)
  | (some ⟨_, code, some index⟩, s) =>
    (writers.bind s.declinesWriters).elim
      (if documents.length ≤ index then (.stored, s.append collection documents)
        else (.stopped index code, s.appendAny collection (beside index ordered documents)))
      fun code => (.refused code, s)
  | (none, s) =>
    (writers.bind s.declinesWriters).elim (.stored, s.append collection documents)
      fun code => (.refused code, s)

/-- The batches in which documents are handed out. -/
def batches (documents : List Document) : List (List Document) :=
  if documents.length ≤ firstBatchSize then [documents]
  else [documents.take firstBatchSize, documents.drop firstBatchSize]

/-- The documents of a collection that fit a filter, ordered by the values
of a name. Those with the same value stand in the order in which they
came. -/
def found (collection : String) (filter : Document) (sort : String) (s : Server) :
    List Document :=
  ((s.documents collection).filter (filter.fits ·)).mergeSort (Document.before sort)

/-- Finds documents of a collection, batch by batch. -/
def find (level : Option String) (collection : String) (filter : Document) (sort : String)
    (s : Server) : Except Int (List (List Document)) × Server :=
  match (s.receive (.find collection filter sort)).strike .find with
  | (some fault, s) => (.error fault.code, s)
  | (none, s) =>
    (level.bind s.declinesLevel).elim (.ok (batches (s.found collection filter sort)), s)
      fun code => (.error code, s)

end Server

end Roster.Documents
