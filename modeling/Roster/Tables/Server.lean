import Roster.Tables.Database

/-!
# `Roster.Tables.Server`: a table server

A server keeps databases by name. A client works on one of them, and what
it does there touches no other: each database has its table, its record
of migrations, and the faults that wait for its statements.
-/

set_option autoImplicit false

namespace Roster.Tables

/-- The state of a table server. -/
structure Server where
  /-- Host and service, with a colon between them. -/
  address : String
  /-- Whether the server takes connections. -/
  listening : Bool
  databases : List (String × Database)
deriving DecidableEq, Repr, Inhabited

namespace Server

/-- A database, if it is there. -/
def database? (s : Server) (name : String) : Option Database :=
  s.databases.lookup name

/-- The state of a database. One that is not there is like one without a
table. -/
def database (s : Server) (name : String) : Database :=
  (s.database? name).getD (.empty true)

/-- The server with another state of a database. -/
def setDatabase (name : String) (s : Server) (d : Database) : Server :=
  { s with databases := (name, d) :: s.databases.filter (·.1 ≠ name) }

/-- The server with each database changed. -/
def mapDatabases (change : Database → Database) (s : Server) : Server :=
  { s with databases := s.databases.map fun entry => (entry.1, change entry.2) }

end Server

end Roster.Tables
