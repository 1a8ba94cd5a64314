import Roster.Documents.Server
import Roster.Store

/-!
# `Roster.Documents.Store`: records in a collection

A store of records in a collection of a document server. Clearing drops
the collection, and dropping one that is not there is fine. Inserting
sends all records in one command, and no command if there are none.
Listing asks for the documents by identifier, decodes every one, and fails
as a whole if one of them is no record. Replacing is clearing and then
inserting: the server has nothing that does both at once.

A client makes up ascending identifiers for its records, so these are
listed as they were inserted. It asks again for a listing that failed in
passing, unless it was told not to.
-/

set_option autoImplicit false

namespace Roster.Documents

/-- The database in use when none is named. -/
def defaultDatabase : String :=
  "test"

/-- A client's hold on a collection. The client connects when it sends
its first command, so a server that is not there shows only then. -/
structure Client where
  place : Namespace
  /-- Whether the server is the one that the client asks for. -/
  reachable : Bool
  terms : Terms
deriving DecidableEq, Repr

namespace Client

/-- An operation that needs the server. -/
def connected {α : Type} (c : Client) (act : Access Server α) : Access Server α := fun s =>
  if c.reachable && s.listening then act s else (.error (.documents .unreachable), s)

/-- An operation that writes. A client does not send what nobody has to
acknowledge. -/
def writing {α : Type} (c : Client) (act : Access Server α) : Access Server α := fun s =>
  if c.terms.acknowledges then c.connected act s else (.error (.documents .unacknowledged), s)

/-- Removes all records, and whatever else is in the collection. -/
def clear (c : Client) : Access Server Unit := c.writing fun s =>
  match s.drop c.terms.writers c.place.name with
  | (.ok (), s) => (.ok (), s)
  | (.error code, s) =>
    if code = namespaceNotFound then (.ok (), s)
    else (.error (.documents (.command code)), s)

/-- The documents of new records, with identifiers that the client makes
up. -/
def newDocuments (s : Server) (records : List Employee) : List Document :=
  Server.identify s.nextId (records.map Document.ofEmployee)

/-- Adds records at the end of the collection. -/
def insert (c : Client) (records : List Employee) : Access Server Nat := fun s =>
  if records.isEmpty then (.ok 0, s)
  else c.writing (fun s =>
    match (s.countUp records.length).insert c.terms.writers c.place.name true
        (newDocuments s records) with
    | (.stored, s) => (.ok records.length, s)
    | (.refused code, s) => (.error (.documents (.command code)), s)
    | (.stopped index code, s) => (.error (.documents (.write index code)), s)) s

/-- The records that batches of documents hold, if every document is a
record. -/
def decode (batches : List (List Document)) : Option (List Employee) :=
  (batches.mapM fun (batch : List Document) => batch.mapM Document.toEmployee?).map List.flatten

/-- The codes of errors that may pass by themselves: a server that is
shutting down, starting, or no longer the one that answers. -/
def passingCodes : List Int :=
  [6, 7, 89, 91, 134, 189, 262, 9001, 10107, 11600, 11602, 13435, 13436]

/-- Asks for all documents of the collection, by identifier. -/
def ask (c : Client) (s : Server) : Except Int (List (List Document)) × Server :=
  s.find c.terms.level c.place.name [] Document.idName

/-- Asks for all documents, and once more if the first answer is an error
that may pass. -/
def search (c : Client) (s : Server) : Except Int (List (List Document)) × Server :=
  match c.ask s with
  | (.ok batches, s) => (.ok batches, s)
  | (.error code, s) =>
    if c.terms.retriesReads && passingCodes.contains code then c.ask s else (.error code, s)

/-- Lists the records. -/
def all (c : Client) : Access Server (List Employee) := c.connected fun s =>
  match c.search s with
  | (.error code, s) => (.error (.documents (.command code)), s)
  | (.ok batches, s) =>
    match decode batches with
    | some records => (.ok records, s)
    | none => (.error (.documents .undecodable), s)

/-- The operations on the records of a collection. -/
def store (c : Client) : Store Server where
  collection := c.place.collection
  clear := c.clear
  insert := c.insert
  all := c.all
  replace := Store.clearThenInsert c.clear c.insert

end Client

end Roster.Documents
