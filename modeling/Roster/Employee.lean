import Roster.Text.Utf8
import Std.Data.HashSet

/-!
# `Roster.Employee`: employee records and their order

An employee is a first name and a last name. Records are ordered by
first name and then by last name, each by its UTF-8 bytes, so the order
needs no locale and two records compare equal only when they are the
same record.
-/

set_option autoImplicit false

namespace Roster

/-- An employee. The store that keeps the record gives it an
identifier, which is no part of the record. -/
@[ext]
structure Employee where
  firstName : String
  lastName : String
deriving DecidableEq, Hashable, Repr, Inhabited

namespace Employee

/-- The two fields of a record, in the order of their declaration. -/
inductive Field where
  | firstName
  | lastName
deriving DecidableEq, Repr

/-- The name of a field in a written record. -/
def Field.name : Field → String
  | .firstName => "firstName"
  | .lastName => "lastName"

/-- The field with a given name. Names are compared exactly. -/
def Field.ofName? (name : String) : Option Field :=
  if name = Field.name .firstName then some .firstName
  else if name = Field.name .lastName then some .lastName
  else none

/-- Records are compared by first name and then by last name, each by
its bytes. -/
instance : Ord Employee where
  compare := compareLex (compareOn fun e => Text.utf8 e.firstName)
    (compareOn fun e => Text.utf8 e.lastName)

/-- The order is decided by the first names unless they are equal. -/
theorem compare_eq_then (a b : Employee) :
    compare a b = (compare (Text.utf8 a.firstName) (Text.utf8 b.firstName)).then
      (compare (Text.utf8 a.lastName) (Text.utf8 b.lastName)) := rfl

/-- The order is total and transitive. -/
instance : Std.TransOrd Employee :=
  inferInstanceAs (Std.TransCmp
    (compareLex (compareOn fun e : Employee => Text.utf8 e.firstName)
      (compareOn fun e : Employee => Text.utf8 e.lastName)))

/-- Only equal records tie. -/
instance : Std.LawfulEqOrd Employee where
  compare_self := by simp
  eq_of_compare {a b} h := by
    rw [compare_eq_then, Ordering.then_eq_eq, Std.compare_eq_iff_eq,
      Std.compare_eq_iff_eq] at h
    exact Employee.ext (Text.utf8_injective h.1) (Text.utf8_injective h.2)

/-- Whether the first record may stand before the second. -/
def le (a b : Employee) : Bool :=
  (compare a b).isLE

/-- The records in order. Equal records are the same, so a tie between
two of them shows nowhere. -/
def sort (records : List Employee) : List Employee :=
  records.mergeSort le

/-- How many different records there are. -/
def distinctCount (records : List Employee) : Nat :=
  (Std.HashSet.ofList records).size

/-- The length in bytes of both names. -/
def byteSize (e : Employee) : Nat :=
  e.firstName.utf8ByteSize + e.lastName.utf8ByteSize

end Employee

end Roster
