import Roster.Tables.Store

/-!
# `Roster.Proofs.Tables.Rows`: the order of rows

What a table keeps of a record is its two names, each of which may be
null (`Row.names`); the identifier only gives the order. `namesOf` lists
the names by identifier.

New rows are numbered upwards, so they come after all rows with smaller
identifiers and in the order of their records (`namesOf_append_number`).
The proof needs that sorting leaves the end of a list in place if that
end is sorted and no smaller than the rest (`mergeSort_append_of_le`).
-/

set_option autoImplicit false

namespace Roster

/-- The names of a record, none of which is null. -/
def Employee.names (e : Employee) : Option String × Option String :=
  (some e.firstName, some e.lastName)

namespace Tables

/-- The names in a row. -/
def Row.names (row : Row) : Option String × Option String :=
  (row.firstName, row.lastName)

/-- Whether a row may stand before another. -/
def Row.before (a b : Row) : Bool :=
  a.id ≤ b.id

/-- The names in some rows, by identifier. -/
def namesOf (rows : List Row) : List (Option String × Option String) :=
  (rows.mergeSort Row.before).map Row.names

@[simp]
theorem namesOf_nil : namesOf [] = [] := by
  simp [namesOf]

theorem Row.before_trans (a b c : Row) (hab : a.before b) (hbc : b.before c) :
    a.before c := by
  unfold Row.before at *
  simp only [decide_eq_true_eq] at *
  omega

theorem Row.before_total (a b : Row) : (a.before b || b.before a) = true := by
  unfold Row.before
  simp only [Bool.or_eq_true, decide_eq_true_eq]
  omega

/-- Sorting leaves the end of a list in place if it is sorted and
nothing before it must come after it. -/
theorem mergeSort_append_of_le {α : Type} {le : α → α → Bool}
    (trans : ∀ a b c, le a b → le b c → le a c) (total : ∀ a b, le a b || le b a)
    {l m : List α} (hm : m.Pairwise fun a b => le a b) (hle : ∀ a ∈ l, ∀ b ∈ m, le a b) :
    (l ++ m).mergeSort le = l.mergeSort le ++ m := by
  induction l with
  | nil => simpa using List.mergeSort_of_pairwise hm
  | cons a l ih =>
      -- Both sorted lists are the sorted rest with `a` put in. The places
      -- `l₁` and `k₁` before `a` are the same: they hold what must not come
      -- after `a`.
      obtain ⟨l₁, l₂, hwhole, hrest, hbefore⟩ := List.mergeSort_cons trans total a (l ++ m)
      obtain ⟨k₁, k₂, hwhole', hrest', hbefore'⟩ := List.mergeSort_cons trans total a l
      have hsplit : l₁ ++ l₂ = k₁ ++ (k₂ ++ m) := by
        rw [← hrest, ih fun b hb => hle b (List.mem_cons_of_mem _ hb), hrest',
          List.append_assoc]
      have hsorted := List.pairwise_mergeSort trans total (a :: (l ++ m))
      have hsorted' := List.pairwise_mergeSort trans total (a :: l)
      rw [hwhole, List.pairwise_append] at hsorted
      rw [hwhole', List.pairwise_append] at hsorted'
      have hafter : ∀ b ∈ l₂, le a b := (List.pairwise_cons.mp hsorted.2.1).1
      have hafter' : ∀ b ∈ k₂ ++ m, le a b := by
        intro b hb
        rcases List.mem_append.mp hb with hb | hb
        · exact (List.pairwise_cons.mp hsorted'.2.1).1 b hb
        · exact hle a List.mem_cons_self b hb
      have hplace : l₁ = k₁ := by
        rcases List.append_eq_append_iff.mp hsplit with ⟨more, rfl, hl₂⟩ | ⟨more, rfl, hk₂⟩
        · cases more with
          | nil => rw [List.append_nil]
          | cons b _ =>
              have hlt := hbefore' b (by simp)
              rw [hafter b (by simp [hl₂])] at hlt
              cases hlt
        · cases more with
          | nil => rw [List.append_nil]
          | cons b _ =>
              have hlt := hbefore b (by simp)
              rw [hafter' b (by simp [hk₂])] at hlt
              cases hlt
      subst hplace
      rw [List.cons_append, hwhole, hwhole', List.append_cancel_left hsplit, List.append_assoc,
        List.cons_append]

namespace Database

/-! ### Numbered rows -/

/-- New rows hold the names of their records. -/
theorem map_names_number (firstId : Int) (records : List Employee) :
    (number firstId records).map Row.names = records.map Employee.names := by
  induction records generalizing firstId with
  | nil => rfl
  | cons e rest ih =>
      rw [number, List.map_cons, List.map_cons, ih]
      rfl

/-- New rows have identifiers from the first one on, as many as there
are records. -/
theorem id_of_mem_number {firstId : Int} {records : List Employee} {row : Row}
    (h : row ∈ number firstId records) :
    firstId ≤ row.id ∧ row.id < firstId + records.length := by
  induction records generalizing firstId with
  | nil => cases h
  | cons e rest ih =>
      rw [number, List.mem_cons] at h
      rw [List.length_cons, Int.natCast_succ]
      rcases h with rfl | h
      · simp only
        omega
      · have hrest := ih h
        omega

/-- New rows are in order. -/
theorem pairwise_number (firstId : Int) (records : List Employee) :
    (number firstId records).Pairwise fun a b => a.before b := by
  induction records generalizing firstId with
  | nil => exact List.Pairwise.nil
  | cons e rest ih =>
      rw [number]
      refine List.Pairwise.cons ?_ (ih (firstId + 1))
      intro row hrow
      have hid := (id_of_mem_number hrow).1
      unfold Row.before
      rw [decide_eq_true_eq]
      show firstId ≤ row.id
      omega

/-- New rows come after rows with smaller identifiers. -/
theorem namesOf_append_number (rows : List Row) {firstId : Int}
    (h : ∀ row ∈ rows, row.id < firstId) (records : List Employee) :
    namesOf (rows ++ number firstId records) = namesOf rows ++ records.map Employee.names := by
  have hle : ∀ a ∈ rows, ∀ b ∈ number firstId records, a.before b := by
    intro a ha b hb
    have hid := (id_of_mem_number hb).1
    have hlt := h a ha
    unfold Row.before
    rw [decide_eq_true_eq]
    omega
  unfold namesOf
  rw [mergeSort_append_of_le Row.before_trans Row.before_total
    (pairwise_number firstId records) hle, List.map_append, map_names_number]

/-- New rows by themselves are the records. -/
theorem namesOf_number (firstId : Int) (records : List Employee) :
    namesOf (number firstId records) = records.map Employee.names := by
  have hnone : ∀ row ∈ ([] : List Row), row.id < firstId := by simp
  have h := namesOf_append_number [] hnone records
  rwa [List.nil_append, namesOf_nil, List.nil_append] at h

end Database

/-! ### Rows of records -/

/-- Rows with the names of some records hold these records. -/
theorem mapM_toEmployee_of_names {rows : List Row} {records : List Employee}
    (h : rows.map Row.names = records.map Employee.names) :
    rows.mapM Row.toEmployee = .ok records := by
  induction rows generalizing records with
  | nil =>
      rw [List.map_nil, eq_comm, List.map_eq_nil_iff] at h
      rw [h]
      rfl
  | cons row rest ih =>
      cases records with
      | nil => cases h
      | cons e records =>
          rw [List.map_cons, List.map_cons, List.cons.injEq] at h
          obtain ⟨hrow, hrest⟩ := h
          have hrow : row.toEmployee = .ok e := by
            obtain ⟨hfirst, hlast⟩ := Prod.mk.inj hrow
            unfold Row.toEmployee
            rw [hfirst, hlast]
          rw [List.mapM_cons, hrow, ih hrest]
          rfl

end Tables

end Roster
