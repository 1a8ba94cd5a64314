import Roster.Employee.Draft

/-!
# `Roster.Documents.Document`: records as documents

A document is a list of named values, in their order; a name may occur
more than once. A record is stored as a document with its two fields. A
stored document is a record if each of the two names occurs exactly
once at the top level, with a text; what else it holds does not matter.

Every stored document has an identifier among its values. A client makes
one up for a document that comes without.
-/

set_option autoImplicit false

namespace Roster.Documents

/-- A value in a document. A number is `mantissa` divided by ten to the
power `places`. -/
inductive Value where
  | text (value : String)
  | number (mantissa : Int) (places : Nat)
  | boolean (value : Bool)
  | null
  | list (items : List Value)
  | document (fields : List (String × Value))
  /-- An identifier that a client made up, by its number. -/
  | identifier (number : Nat)
deriving Inhabited

/-- Named values, in their order. -/
abbrev Document := List (String × Value)

namespace Document

/-- The document of a record. -/
def ofEmployee (e : Employee) : Document :=
  [(Employee.Field.firstName.name, .text e.firstName),
   (Employee.Field.lastName.name, .text e.lastName)]

/-- A draft with the fields of a document, unless a field comes again
or is no text. -/
def fill (draft : Employee.Draft) : Document → Option Employee.Draft
  | [] => some draft
  | (name, value) :: rest =>
    match Employee.Field.ofName? name with
    | none => fill draft rest
    | some field =>
      match draft.get? field, value with
      | none, .text s => fill (draft.set field s) rest
      | _, _ => none

/-- The record that a document holds. -/
def toEmployee? (d : Document) : Option Employee :=
  match fill .empty d with
  | none => none
  | some draft => draft.complete.toOption

/-- The name of the identifier of a document. -/
def idName : String :=
  "_id"

/-- The document with an identifier. One that it has of its own stays. -/
def identified (number : Nat) (d : Document) : Document :=
  if d.any (·.1 = idName) then d else (idName, .identifier number) :: d

/-- The document without its identifier. -/
def shown (d : Document) : Document :=
  d.filter (·.1 ≠ idName)

end Document

end Roster.Documents
