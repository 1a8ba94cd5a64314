import Mathlib.Data.Finset.Card
import Mathlib.Data.List.Destutter
import Mathlib.Data.List.SplitBy
import Roster.Proofs.Employee.Order

/-!
# `Roster.Proofs.Employee.Sorting`: the sorted form is canonical

The sorted form of a list is the one ordered permutation of it, so a list
that is in order is its own sorted form (`sort_eq_self_iff`).

In the sorted form equal records stand together. Each run of them is one
different record of the list, so counting the runs counts the different
records (`length_runs_sort`), and so does the hash set of the library
(`distinctCount_eq_card`). `sort_canonical` gathers all this.
-/

set_option autoImplicit false

namespace Roster.Employee

section Runs

variable {α : Type} [DecidableEq α]

/-- The runs of equal adjacent elements. -/
def runs (l : List α) : List (List α) :=
  l.splitBy (· == ·)

/-- The loop that collects the runs closes one for each element that
differs from the one before it. `run` is what it has of the present run,
without the last element `a`, and `closed` are the runs before. -/
theorem length_splitBy_loop (l : List α) (a : α) (run : List α) (closed : List (List α)) :
    (List.splitBy.loop (· == ·) l a run closed).length
      = closed.length + (l.destutter' (· ≠ ·) a).length := by
  induction l generalizing a run closed with
  | nil => simp [List.splitBy.loop]
  | cons b l ih =>
    by_cases hab : a = b
    · -- The run goes on, and the element is dropped.
      rw [List.destutter'_cons_neg l (by simpa using hab)]
      simp only [List.splitBy.loop, beq_iff_eq.mpr hab]
      rw [ih, hab]
    · rw [List.destutter'_cons_pos l hab]
      simp only [List.splitBy.loop, beq_eq_false_iff_ne.mpr hab]
      rw [ih, List.length_cons, List.length_cons]
      omega

/-- There are as many runs as elements that differ from the one before
them. -/
theorem length_runs (l : List α) : (runs l).length = (l.destutter (· ≠ ·)).length := by
  cases l with
  | nil => rfl
  | cons a l =>
    rw [List.destutter_cons', runs, List.splitBy, length_splitBy_loop, List.length_nil,
      Nat.zero_add]

end Runs

variable (l : List Employee)

/-- Exactly the lists that are in order are their own sorted forms. -/
theorem sort_eq_self_iff : sort l = l ↔ l.Pairwise fun a b => a.le b := by
  constructor
  · intro h
    rw [← h]
    exact pairwise_sort l
  · intro h
    exact List.mergeSort_of_pairwise h

/-- A list is in order exactly if every record may stand before the next
one. -/
theorem pairwise_le_iff_isChain :
    (l.Pairwise fun a b => a.le b) ↔ l.IsChain fun a b => a.le b :=
  List.isChain_iff_pairwise.symm

/-- The hash set counts the different records. -/
theorem distinctCount_eq_card : distinctCount l = l.toFinset.card := by
  -- The set listed and the list without repetitions have the same members, each once.
  have hnodup : (Std.HashSet.ofList l).toList.Nodup :=
    Std.HashSet.distinct_toList.imp fun h => beq_eq_false_iff_ne.mp h
  have hmem : ∀ e, e ∈ (Std.HashSet.ofList l).toList ↔ e ∈ l.dedup := by
    intro e
    rw [Std.HashSet.mem_toList, Std.HashSet.mem_ofList, List.contains_iff_mem, List.mem_dedup]
  have hperm := (List.perm_ext_iff_of_nodup hnodup l.nodup_dedup).mpr hmem
  rw [distinctCount, ← Std.HashSet.length_toList, hperm.length_eq, List.card_toFinset]

/-- The runs of the sorted form are as many as the different records. -/
theorem length_runs_sort : (runs (sort l)).length = l.toFinset.card := by
  -- In order, equal records are neighbours: what drops these drops all repetitions.
  rw [length_runs, (pairwise_sort l).destutter_eq_dedup, List.card_toFinset]
  exact (sort_perm l).dedup.length_eq

/-- The sorted form is a permutation of the list in which every record
may stand before the next. It is the same for the permutations of a list
and for no others, and a list in order is left alone. The different
records of the list are the runs of its sorted form. -/
theorem sort_canonical (m : List Employee) :
    (sort l).Perm l ∧ ((sort l).IsChain fun a b => a.le b) ∧
      (sort l = sort m ↔ l.Perm m) ∧
      (sort l = l ↔ l.IsChain fun a b => a.le b) ∧
      distinctCount l = l.toFinset.card ∧ l.toFinset.card = (runs (sort l)).length := by
  refine ⟨sort_perm l, ?ordered, sort_eq_sort_iff, ?unchanged, distinctCount_eq_card l,
    (length_runs_sort l).symm⟩
  case ordered => exact (pairwise_le_iff_isChain _).mp (pairwise_sort l)
  case unchanged => rw [sort_eq_self_iff, pairwise_le_iff_isChain]

end Roster.Employee
