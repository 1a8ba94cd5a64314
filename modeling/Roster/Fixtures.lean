import Roster.Employee

/-!
# `Roster.Fixtures`: the fixed records

The records that seeding leaves in a store, in the order in which they
are written.
-/

set_option autoImplicit false

namespace Roster

/-- First and last names, in order. -/
def fixtureNames : List (String × String) :=
  [("John", "Doe"), ("Jane", "Smith"), ("Peter", "Jones")]

/-- The fixed records, in order. -/
def fixtures : List Employee :=
  fixtureNames.map fun name => ⟨name.1, name.2⟩

end Roster
