import Roster.Documents.Document
import Roster.Proofs.Employee.Draft

/-!
# `Roster.Proofs.Documents.Record`: which documents are records

`Document.values` lists what a document has under the name of a field,
at its top level. A document holds a record (`Document.IsOf`) if each
field has one value there, the text of the record. Nothing is said of
other names or of the order, and a document in which a name comes twice
is no record, even with the same text.

Decoding fills a draft value by value. Seen from one field, all that
counts are its own values, in their order (`Document.fill_eq_some_iff`);
so decoding finds the record of a document if there is one
(`Document.toEmployee?_eq_some_iff`).
-/

set_option autoImplicit false

namespace Roster.Documents.Document

open Employee (Field Draft)

variable {d : Document} {e : Employee} {field : Field}

/-- The values that stand under the name of a field, in their order. -/
def values (field : Field) (d : Document) : List Value :=
  (d.filter (·.1 = field.name)).map (·.2)

/-- Whether a document holds a record. -/
def IsOf (d : Document) (e : Employee) : Prop :=
  d.values .firstName = [.text e.firstName] ∧ d.values .lastName = [.text e.lastName]

/-- What values make of a field: there are none, or there is a single
one, a text, and the field is new. -/
def Arrives (found : List Value) (old new : Option String) : Prop :=
  (found = [] ∧ new = old) ∨
    (old = none ∧ ∃ text, found = [.text text] ∧ new = some text)

theorem arrives_nil {old new : Option String} : Arrives [] old new ↔ new = old := by
  simp [Arrives]

/-- The first value is a text for a new field, which then is an old
one. -/
theorem arrives_cons {value : Value} {rest : List Value} {old new : Option String} :
    Arrives (value :: rest) old new ↔
      old = none ∧ ∃ text, value = .text text ∧ Arrives rest (some text) new := by
  constructor
  · rintro (⟨hnone, _⟩ | ⟨hnew, text, hone, rfl⟩)
    · exact nomatch hnone
    · obtain ⟨rfl, rfl⟩ := List.cons.inj hone
      exact ⟨hnew, text, rfl, arrives_nil.mpr rfl⟩
  · rintro ⟨hnew, text, rfl, ⟨rfl, hsame⟩ | ⟨hold, _⟩⟩
    · exact .inr ⟨hnew, text, rfl, hsame⟩
    · exact nomatch hold

/-- A new field takes a single text and nothing else. -/
theorem arrives_new_iff {found : List Value} {text : String} :
    Arrives found none (some text) ↔ found = [.text text] := by
  simp [Arrives]

theorem values_cons_self (field : Field) (value : Value) (rest : Document) :
    values field ((field.name, value) :: rest) = value :: values field rest := by
  simp [values]

theorem values_cons_of_ne {name : String} (h : name ≠ field.name) (value : Value)
    (rest : Document) : values field ((name, value) :: rest) = values field rest := by
  simp [values, h]

/-- A value of a field is taken if it is a text and the field is new. -/
theorem fill_cons_field {draft draft' : Draft} {value : Value} {rest : Document} :
    fill draft ((field.name, value) :: rest) = some draft' ↔
      draft.get? field = none ∧
        ∃ text, value = .text text ∧ fill (draft.set field text) rest = some draft' := by
  have hname : Field.ofName? field.name = some field := Field.ofName?_eq_some_iff.mpr rfl
  simp only [fill, hname]
  split
  · rename_i text hnew
    simp [hnew]
  · rename_i hother
    refine iff_of_false nofun ?_
    rintro ⟨hnew, text, rfl, _⟩
    exact hother text hnew rfl

/-- A document fills a draft field by field. -/
theorem fill_eq_some_iff {draft draft' : Draft} :
    fill draft d = some draft' ↔
      ∀ field, Arrives (d.values field) (draft.get? field) (draft'.get? field) := by
  induction d generalizing draft with
  | nil =>
    constructor
    · intro h field
      cases h
      exact arrives_nil.mpr rfl
    · intro h
      rw [Draft.ext_get? fun field => arrives_nil.mp (h field)]
      rfl
  | cons entry rest ih =>
    obtain ⟨name, value⟩ := entry
    cases hname : Field.ofName? name with
    | none =>
      -- No field sees the value.
      have hother : ∀ field, name ≠ Field.name field := fun field heq =>
        nomatch hname.symm.trans (Field.ofName?_eq_some_iff.mpr heq)
      simp only [fill, hname, values_cons_of_ne (hother _)]
      exact ih
    | some own =>
      -- Its own field sees the value, and the other does not.
      obtain rfl := Field.ofName?_eq_some_iff.mp hname
      have hother : ∀ field, field ≠ own → Field.name own ≠ Field.name field :=
        fun field hne heq => hne
          (Option.some.inj ((Field.ofName?_eq_some_iff.mpr heq).symm.trans hname))
      rw [fill_cons_field]
      constructor
      · rintro ⟨hnew, text, htext, hrest⟩ field
        have harrives := ih.mp hrest field
        rw [Draft.get?_set] at harrives
        by_cases hfield : field = own
        · subst hfield
          rw [if_pos rfl] at harrives
          rw [values_cons_self]
          exact arrives_cons.mpr ⟨hnew, text, htext, harrives⟩
        · rw [if_neg hfield] at harrives
          rw [values_cons_of_ne (hother field hfield)]
          exact harrives
      · intro h
        have hown := h own
        rw [values_cons_self] at hown
        obtain ⟨hnew, text, htext, hrest⟩ := arrives_cons.mp hown
        refine ⟨hnew, text, htext, ih.mpr fun field => ?_⟩
        rw [Draft.get?_set]
        by_cases hfield : field = own
        · subst hfield
          rw [if_pos rfl]
          exact hrest
        · have harrives := h field
          rw [values_cons_of_ne (hother field hfield)] at harrives
          rw [if_neg hfield]
          exact harrives

/-- Decoding finds the record that a document holds, and none in other
documents. -/
theorem toEmployee?_eq_some_iff : d.toEmployee? = some e ↔ d.IsOf e := by
  have hempty : ∀ field, Draft.empty.get? field = none := fun field => by cases field <;> rfl
  have hfilled : d.toEmployee? = some e ↔
      ∃ draft, fill .empty d = some draft ∧ draft.complete = .ok e := by
    unfold toEmployee?
    cases fill .empty d with
    | none => simp
    | some draft => cases hcomplete : draft.complete <;> simp [hcomplete, Except.toOption]
  simp only [hfilled, fill_eq_some_iff, hempty, Draft.complete_eq_ok]
  constructor
  · rintro ⟨draft, hfill, hfirst, hlast⟩
    exact ⟨arrives_new_iff.mp (hfirst ▸ hfill .firstName),
      arrives_new_iff.mp (hlast ▸ hfill .lastName)⟩
  · rintro ⟨hfirst, hlast⟩
    refine ⟨⟨some e.firstName, some e.lastName⟩, fun field => ?_, rfl, rfl⟩
    cases field with
    | firstName => exact arrives_new_iff.mpr hfirst
    | lastName => exact arrives_new_iff.mpr hlast

/-- The identifier of a document is no value of a field. -/
theorem values_shown (field : Field) (d : Document) : d.shown.values field = d.values field := by
  have hne : field.name ≠ idName := by cases field <;> decide
  unfold shown values
  rw [List.filter_filter]
  congr 2
  funext entry
  by_cases hname : entry.1 = field.name <;> simp [hname, hne]

/-- The identifier of a document does not count when it is decoded. -/
theorem toEmployee?_shown (d : Document) : d.shown.toEmployee? = d.toEmployee? := by
  refine Option.ext fun e => ?_
  rw [toEmployee?_eq_some_iff, toEmployee?_eq_some_iff, IsOf, IsOf, values_shown, values_shown]

end Roster.Documents.Document
