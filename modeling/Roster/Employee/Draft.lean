import Roster.Employee

/-!
# `Roster.Employee.Draft`: a record that is being read

A record arrives as named values, in any order and between others. A
draft holds the fields that have arrived. A field arrives at most once,
and the record is complete when both have.
-/

set_option autoImplicit false

namespace Roster.Employee

/-- The fields of a record that have arrived. -/
structure Draft where
  firstName : Option String
  lastName : Option String
deriving DecidableEq, Repr

namespace Draft

/-- A record of which nothing has arrived. -/
def empty : Draft :=
  ⟨none, none⟩

/-- The value of a field, if it has arrived. -/
def get? (d : Draft) : Field → Option String
  | .firstName => d.firstName
  | .lastName => d.lastName

/-- The draft with the value of one more field. -/
def set (d : Draft) (field : Field) (value : String) : Draft :=
  match field with
  | .firstName => { d with firstName := some value }
  | .lastName => { d with lastName := some value }

/-- The record, if both fields have arrived; otherwise the first one
that is missing, in the order of their declaration. -/
def complete (d : Draft) : Except Field Employee :=
  match d.firstName, d.lastName with
  | some first, some last => .ok ⟨first, last⟩
  | none, _ => .error .firstName
  | some _, none => .error .lastName

/-- A field that was set is read back, and the other is as before. -/
theorem get?_set (d : Draft) (field other : Field) (value : String) :
    (d.set field value).get? other = if other = field then some value else d.get? other := by
  cases field <;> cases other <;> rfl

end Draft

end Roster.Employee
