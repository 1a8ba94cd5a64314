import Mathlib.Order.Defs.Unbundled
import Roster.Proofs.Text.CodePoints
import Roster.Seeder

/-!
# `Roster.Proofs.Employee.Order`: sorting decides permutation

Records are totally ordered, and only equal records tie. So two lists
have the same sorted form exactly if one is a permutation of the other
(`sort_eq_sort_iff`). Verifying compares sorted forms: it accepts the
permutations of the fixed records and nothing else
(`Seeder.matchesFixtures_iff`).

The order is by the bytes of the names. It is the order by their code
points as well (`compare_by_codePoints`).
-/

set_option autoImplicit false

namespace Roster

namespace Employee

/-- The order of records is transitive. -/
theorem le_trans (a b c : Employee) (hab : a.le b) (hbc : b.le c) : a.le c :=
  Std.TransOrd.isLE_trans hab hbc

/-- Of two records one may stand before the other. -/
theorem le_total (a b : Employee) : (a.le b || b.le a) = true := by
  unfold le
  rw [Std.OrientedOrd.eq_swap (a := b) (b := a)]
  cases compare a b <;> rfl

/-- Records that may stand before each other are the same record. -/
theorem le_antisymm {a b : Employee} (hab : a.le b) (hba : b.le a) : a = b :=
  Std.LawfulEqOrd.eq_of_compare (Std.OrientedCmp.isLE_antisymm hab hba)

/-- The order of records is a total order. -/
instance isLinearOrder_le : IsLinearOrder Employee fun a b => a.le b = true where
  refl a := by simp [le]
  trans := le_trans
  antisymm _ _ := le_antisymm
  total a b := by simpa only [Bool.or_eq_true] using le_total a b

/-- Comparing two records by the bytes of their first names and then of
their last names is comparing them by code points. Turning the records
round turns the answer round, and only a record and itself tie, so the
order is total. -/
theorem compare_by_codePoints (a b : Employee) :
    compare a b = (compare (Text.codePoints a.firstName) (Text.codePoints b.firstName)).then
        (compare (Text.codePoints a.lastName) (Text.codePoints b.lastName)) ∧
      compare b a = (compare a b).swap ∧ (compare a b = .eq ↔ a = b) ∧
      IsLinearOrder Employee fun a b => a.le b = true := by
  refine ⟨?bytes, Std.OrientedOrd.eq_swap, Std.compare_eq_iff_eq, isLinearOrder_le⟩
  case bytes => rw [compare_eq_then, Text.compare_utf8, Text.compare_utf8]

/-- The sorted form is a permutation of the list. -/
theorem sort_perm (records : List Employee) : (sort records).Perm records :=
  List.mergeSort_perm records le

/-- In the sorted form every record may stand before those after it. -/
theorem pairwise_sort (records : List Employee) :
    (sort records).Pairwise fun a b => a.le b :=
  List.pairwise_mergeSort le_trans le_total records

/-- Two lists have the same sorted form exactly if one is a permutation
of the other. -/
theorem sort_eq_sort_iff {l m : List Employee} : sort l = sort m ↔ l.Perm m := by
  constructor
  · intro h
    exact (sort_perm l).symm.trans (h ▸ sort_perm m)
  · intro h
    have hperm : (sort l).Perm (sort m) := (sort_perm l).trans (h.trans (sort_perm m).symm)
    exact hperm.eq_of_pairwise (fun _ _ _ _ => le_antisymm) (pairwise_sort l) (pairwise_sort m)

end Employee

/-- Verifying accepts the permutations of the fixed records. -/
theorem Seeder.matchesFixtures_iff {found : List Employee} :
    matchesFixtures found = true ↔ found.Perm fixtures := by
  unfold matchesFixtures
  rw [decide_eq_true_iff]
  exact Employee.sort_eq_sort_iff

end Roster
