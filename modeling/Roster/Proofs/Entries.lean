/-!
# `Roster.Proofs.Entries`: values by name

The collections of a document server, the databases of a table server and
the handles of a session are lists of values with names, of which the
first entry with a name counts. An entry is taken away by leaving out its
name, and changed by leaving it out and putting another in front. Neither
touches the entry of another name.
-/

set_option autoImplicit false

namespace Roster

variable {α : Type} (entries : List (String × α)) {name other : String}

/-- A name that was left out has no entry. -/
theorem lookup_filter_self (name : String) :
    (entries.filter (·.1 ≠ name)).lookup name = none := by
  rw [List.lookup_eq_none_iff]
  intro entry hentry
  have hne := of_decide_eq_true (List.mem_filter.mp hentry).2
  exact bne_iff_ne.mpr (Ne.symm hne)

/-- Leaving one name out changes no other entry. -/
theorem lookup_filter_ne (h : other ≠ name) :
    (entries.filter (·.1 ≠ name)).lookup other = entries.lookup other := by
  induction entries with
  | nil => rfl
  | cons entry rest ih =>
    obtain ⟨key, value⟩ := entry
    by_cases hkey : key = name
    · -- The entry that is left out has not the other name either.
      rw [List.filter_cons_of_neg (by simp [hkey]), ih, List.lookup_cons,
        beq_false_of_ne (hkey ▸ h)]
    · rw [List.filter_cons_of_pos (by simp [hkey]), List.lookup_cons, List.lookup_cons, ih]

/-- An entry that takes the place of the one with its name changes no
other. -/
theorem lookup_cons_filter_ne (value : α) (h : other ≠ name) :
    ((name, value) :: entries.filter (·.1 ≠ name)).lookup other = entries.lookup other := by
  rw [List.lookup_cons, beq_false_of_ne h]
  exact lookup_filter_ne entries h

/-- Changing every entry changes what is found under a name. -/
theorem lookup_map {β : Type} (change : α → β) (name : String) :
    (entries.map fun entry => (entry.1, change entry.2)).lookup name =
      (entries.lookup name).map change := by
  induction entries with
  | nil => rfl
  | cons entry rest ih =>
    rw [List.map_cons, List.lookup_cons, List.lookup_cons]
    cases name == entry.1 with
    | true => rfl
    | false => exact ih

end Roster
