import Roster.Proofs.Employee.Draft
import Roster.Proofs.Json.Grammar

/-!
# `Roster.Proofs.Json.Members`: the members of a record

A record is gathered member by member into a draft. `Fills` says which
draft some members lead to, in the order in which they stand;
`fills_iff` says the same for each field by itself, where the order no
longer shows. So a draft is complete exactly if each field has one
member (`fills_complete_iff`).
-/

set_option autoImplicit false

namespace Roster

namespace Json

open Employee (Field Draft)

variable {d d' d'' : Draft} {entry : Entry} {entries : List Entry} {field : Field}

/-- What a member makes of a draft. A member that is no field's changes
nothing; a field's has a text as its value, and the field is new. -/
inductive Adds (d : Draft) (entry : Entry) : Draft → Prop where
  | other (hname : Field.ofName? entry.name = none) : Adds d entry d
  | field (field : Field) (text : String) (hname : Field.ofName? entry.name = some field)
      (hnew : d.get? field = none) (htext : IsText entry.value text) :
      Adds d entry (d.set field text)

/-- A member that adds to a draft is of no field that the draft has. -/
theorem Adds.new (h : Adds d entry d') :
    ∀ field, Field.ofName? entry.name = some field → d.get? field = none := by
  intro field hfield
  cases h with
  | other hother => exact nomatch hother.symm.trans hfield
  | field own _ hown hnew =>
    obtain rfl := Option.some.inj (hown.symm.trans hfield)
    exact hnew

/-- What members make of a draft. -/
inductive Fills : Draft → List Entry → Draft → Prop where
  | nil (d : Draft) : Fills d [] d
  | cons {d d' d'' : Draft} {entry : Entry} {entries : List Entry} (hentry : Adds d entry d')
      (hentries : Fills d' entries d'') : Fills d (entry :: entries) d''

/-- One member after others. -/
theorem Fills.snoc (h : Fills d entries d') (hlast : Adds d' entry d'') :
    Fills d (entries ++ [entry]) d'' := by
  induction h with
  | nil => exact .cons hlast (.nil _)
  | cons hentry _ ih => exact .cons hentry (ih hlast)

/-- The members that are a field's. -/
def named (field : Field) (entries : List Entry) : List Entry :=
  entries.filter (·.name = field.name)

/-- What members make of one field: none is the field's, or exactly one
is, and the field is new. -/
def Arrives (field : Field) (entries : List Entry) (old new : Option String) : Prop :=
  (named field entries = [] ∧ new = old) ∨
    (old = none ∧ ∃ entry text, named field entries = [entry] ∧ IsText entry.value text ∧
      new = some text)

theorem named_cons (field : Field) (entry : Entry) (entries : List Entry) :
    named field (entry :: entries) =
      if Field.ofName? entry.name = some field then entry :: named field entries
      else named field entries := by
  simp only [named, List.filter_cons, decide_eq_true_eq, Field.ofName?_eq_some_iff]

theorem arrives_nil {old new : Option String} : Arrives field [] old new ↔ new = old := by
  simp [Arrives, named]

/-- A member that is not the field's changes nothing of it. -/
theorem arrives_cons_of_ne {old new : Option String}
    (hname : Field.ofName? entry.name ≠ some field) :
    Arrives field (entry :: entries) old new ↔ Arrives field entries old new := by
  rw [Arrives, named_cons, if_neg hname, Arrives]

/-- The field's member gives it a text, and no other member does. -/
theorem arrives_cons_of_eq {old new : Option String}
    (hname : Field.ofName? entry.name = some field) :
    Arrives field (entry :: entries) old new ↔
      old = none ∧ ∃ text, IsText entry.value text ∧ Arrives field entries (some text) new := by
  have hcons : named field (entry :: entries) = entry :: named field entries := by
    rw [named_cons, if_pos hname]
  constructor
  · rintro (⟨hnone, _⟩ | ⟨hnew, one, text, hone, htext, rfl⟩)
    · exact nomatch hcons.symm.trans hnone
    · obtain ⟨rfl, hrest⟩ := List.cons.inj (hcons.symm.trans hone)
      exact ⟨hnew, text, htext, .inl ⟨hrest, rfl⟩⟩
  · rintro ⟨hnew, text, htext, ⟨hrest, hsame⟩ | ⟨hnone, _⟩⟩
    · exact .inr ⟨hnew, entry, text, by rw [hcons, hrest], htext, hsame⟩
    · exact nomatch hnone

/-- Members fill a draft field by field. -/
theorem fills_iff :
    Fills d entries d' ↔ ∀ field, Arrives field entries (d.get? field) (d'.get? field) := by
  induction entries generalizing d with
  | nil =>
    constructor
    · intro h field
      cases h
      exact arrives_nil.mpr rfl
    · intro h
      rw [Draft.ext_get? fun field => arrives_nil.mp (h field)]
      exact .nil d
  | cons entry entries ih =>
    cases hname : Field.ofName? entry.name with
    | none =>
      -- The member is seen by no field.
      have hother : ∀ field, Field.ofName? entry.name ≠ some field := fun field => by simp [hname]
      simp only [arrives_cons_of_ne (hother _), ← ih]
      constructor
      · intro h
        cases h with
        | cons hentry hentries =>
          cases hentry with
          | other => exact hentries
          | field _ _ hfield => exact nomatch hname.symm.trans hfield
      · exact .cons (.other hname)
    | some own =>
      -- Its own field sees the member, and the other does not.
      have hother : ∀ field, field ≠ own → Field.ofName? entry.name ≠ some field :=
        fun field hne heq => hne (Option.some.inj (heq.symm.trans hname))
      constructor
      · intro h field
        cases h with
        | cons hentry hentries =>
          cases hentry with
          | other hnone => exact nomatch hname.symm.trans hnone
          | field own' text hown' hnew htext =>
            obtain rfl := Option.some.inj (hname.symm.trans hown')
            have hrest := ih.mp hentries field
            rw [Draft.get?_set] at hrest
            by_cases hfield : field = own
            · subst hfield
              rw [if_pos rfl] at hrest
              exact (arrives_cons_of_eq hname).mpr ⟨hnew, text, htext, hrest⟩
            · rw [if_neg hfield] at hrest
              exact (arrives_cons_of_ne (hother field hfield)).mpr hrest
      · intro h
        obtain ⟨hnew, text, htext, hown⟩ := (arrives_cons_of_eq hname).mp (h own)
        refine .cons (.field own text hname hnew htext) (ih.mpr fun field => ?_)
        rw [Draft.get?_set]
        by_cases hfield : field = own
        · subst hfield
          rw [if_pos rfl]
          exact hown
        · rw [if_neg hfield]
          exact (arrives_cons_of_ne (hother field hfield)).mp (h field)

/-- A field has one member exactly if it arrives in an empty draft. -/
theorem hasField_iff {text : String} :
    HasField entries field text ↔ Arrives field entries none (some text) := by
  constructor
  · rintro ⟨entry, hone, htext⟩
    exact .inr ⟨rfl, entry, text, hone, htext, rfl⟩
  · rintro (⟨_, hsome⟩ | ⟨_, entry, text', hone, htext, hsame⟩)
    · exact nomatch hsome
    · obtain rfl := Option.some.inj hsame
      exact ⟨entry, hone, htext⟩

/-- Members make a record exactly if it has each field from one of
them. -/
theorem fills_complete_iff {record : Employee} :
    (∃ d, Fills .empty entries d ∧ d.complete = .ok record) ↔
      HasField entries .firstName record.firstName ∧
        HasField entries .lastName record.lastName := by
  have hempty : ∀ field, Draft.empty.get? field = none := fun field => by cases field <;> rfl
  simp only [fills_iff, hempty, Draft.complete_eq_ok, hasField_iff]
  constructor
  · rintro ⟨d, hfills, hfirst, hlast⟩
    exact ⟨hfirst ▸ hfills .firstName, hlast ▸ hfills .lastName⟩
  · rintro ⟨hfirst, hlast⟩
    refine ⟨⟨some record.firstName, some record.lastName⟩, fun field => ?_, rfl, rfl⟩
    cases field with
    | firstName => exact hfirst
    | lastName => exact hlast

end Json

end Roster
