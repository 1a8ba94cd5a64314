import Roster.Employee.Draft

/-!
# `Roster.Proofs.Employee.Draft`: a draft by its fields

A draft is its two fields (`Draft.ext_get?`), and it is complete if both
have arrived (`Draft.complete_eq_ok`). So what fills a draft, be it the
members of a written record or the values of a document, can be followed
for one field at a time.
-/

set_option autoImplicit false

namespace Roster.Employee

/-- The field with a name is the one that bears it. -/
theorem Field.ofName?_eq_some_iff {name : String} {field : Field} :
    ofName? name = some field ↔ name = field.name := by
  have hother : Field.name .lastName ≠ Field.name .firstName := by decide
  unfold ofName?
  split
  · rename_i hname
    subst hname
    cases field
    · simp
    · simpa using hother.symm
  · rename_i hfirst
    split
    · rename_i hname
      subst hname
      cases field
      · simpa using hother
      · simp
    · rename_i hlast
      cases field
      · simpa using hfirst
      · simpa using hlast

/-- Drafts with the same fields are the same. -/
theorem Draft.ext_get? {d d' : Draft} (h : ∀ field, d.get? field = d'.get? field) : d = d' := by
  obtain ⟨first, last⟩ := d
  obtain ⟨first', last'⟩ := d'
  obtain rfl : first = first' := h .firstName
  obtain rfl : last = last' := h .lastName
  rfl

/-- A draft is complete with a record if it has the record's fields. -/
theorem Draft.complete_eq_ok {d : Draft} {record : Employee} :
    d.complete = .ok record ↔
      d.get? .firstName = some record.firstName ∧ d.get? .lastName = some record.lastName := by
  obtain ⟨first, last⟩ := d
  obtain ⟨recordFirst, recordLast⟩ := record
  cases first <;> cases last <;> simp [complete, get?]

end Roster.Employee
