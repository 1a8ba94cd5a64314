import Roster.Proofs.Entries
import Roster.Tables.Server

/-!
# `Roster.Proofs.Tables.Databases`: the databases of a server

What is done in one database touches no other (`Server.database_setDatabase`,
`Server.database_setDatabase_ne`), and a change to all of them is a change
to each.
-/

set_option autoImplicit false

namespace Roster.Tables.Server

/-- The state of a database that was set is read back. -/
theorem database?_setDatabase (name : String) (t : Server) (d : Database) :
    (t.setDatabase name d).database? name = some d :=
  List.lookup_cons_self

/-- The state of a database that was set is read back. -/
theorem database_setDatabase (name : String) (t : Server) (d : Database) :
    (t.setDatabase name d).database name = d := by
  rw [database, database?_setDatabase]
  rfl

/-- Another state of one database changes no other. -/
theorem database?_setDatabase_ne {name other : String} (h : other ≠ name) (t : Server)
    (d : Database) : (t.setDatabase name d).database? other = t.database? other :=
  lookup_cons_filter_ne t.databases d h

/-- Another state of one database changes no other. -/
theorem database_setDatabase_ne {name other : String} (h : other ≠ name) (t : Server)
    (d : Database) : (t.setDatabase name d).database other = t.database other := by
  rw [database, database, database?_setDatabase_ne h]

/-- Each database is changed. -/
theorem database?_mapDatabases (change : Database → Database) (t : Server) (name : String) :
    (t.mapDatabases change).database? name = (t.database? name).map change :=
  lookup_map t.databases change name

/-- Each database is changed, if an empty one stays as it is. -/
theorem database_mapDatabases {change : Database → Database}
    (hempty : change (.empty true) = .empty true) (t : Server) (name : String) :
    (t.mapDatabases change).database name = change (t.database name) := by
  unfold database
  rw [database?_mapDatabases]
  cases t.database? name with
  | none => exact hempty.symm
  | some d => rfl

end Roster.Tables.Server
