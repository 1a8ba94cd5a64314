import Roster.Proofs.Employee.Order
import Roster.Proofs.Listing
import Roster.Proofs.Seeding

/-!
# `Roster.Proofs.Verifying`: verifying decides equality up to order

Verifying lists a store once and compares sorted forms. The three ways
in which it ends are equations: the listing failed
(`Seeder.verify_of_all_error`), it is a permutation of the fixed records
(`verify_of_perm`), or it is not (`verify_of_not_perm`). Each gives the
answer, all that is told, and the state, so nothing else happens.

`verify_decides` puts them together. A permutation keeps every record as
often as it is there: a listing with a record too many, one too few, one
twice or one altered is refused. The warning is made from the name of
the collection and the number of records alone (`Seeder.warning`), so it
cannot tell a name of a record. Nothing that is kept changes, at
whichever place.
-/

set_option autoImplicit false

namespace Roster.Seeder

variable {σ : Type} {store : Store σ} {s s' : σ}

/-- The warning that a collection holds other records than it should. -/
def warning (collection : String) (count : Nat) : Event :=
  ⟨.warn, .seeder, collection ++ " holds " ++ toString count ++
    " records that do not match the fixtures"⟩

/-- The line that tells one record that was found. -/
def detail (e : Employee) : Event :=
  ⟨.debug, .seeder, "  " ++ e.firstName ++ " " ++ e.lastName⟩

/-- The fixed records are verified in whatever order they are listed. -/
theorem verify_of_perm {found : List Employee} (h : store.all s = (.ok found, s'))
    (hperm : found.Perm fixtures) :
    verify store s = ⟨.ok found, found.map detail, s'⟩ := by
  unfold verify
  rw [h]
  exact if_pos (matchesFixtures_iff.mpr hperm)

/-- Other records are not verified. -/
theorem verify_of_not_perm {found : List Employee} (h : store.all s = (.ok found, s'))
    (hperm : ¬found.Perm fixtures) :
    verify store s =
      ⟨.error (.mismatch fixtures found), [warning store.collection found.length], s'⟩ := by
  unfold verify
  rw [h]
  exact if_neg (mt matchesFixtures_iff.mp hperm)

/-- A listing that fails is not verified. -/
theorem verify_of_all_error {e : StoreError} (h : store.all s = (.error e, s')) :
    verify store s = ⟨.error (.store e), [], s'⟩ := by
  unfold verify
  rw [h]

/-- Of what was listed, exactly the permutations of the fixed records are
verified. -/
theorem verify_isOk_iff {found : List Employee} (h : store.all s = (.ok found, s')) :
    (verify store s).result.isOk ↔ found.Perm fixtures := by
  by_cases hperm : found.Perm fixtures
  · rw [verify_of_perm h hperm]
    exact iff_of_true rfl hperm
  · rw [verify_of_not_perm h hperm]
    exact iff_of_false Bool.false_ne_true hperm

/-- Verifying accepts what was listed exactly if it is a permutation of
the fixed records. Then it answers the listing in its order and tells its
records one by one; otherwise it answers both lists in their own order
and warns once. A listing that fails is passed on, and nothing is told.
Nothing that is kept changes. -/
theorem verify_decides :
    (∀ {σ : Type} (store : Store σ) (s s' : σ) (found : List Employee),
      store.all s = (.ok found, s') →
        ((verify store s).result.isOk ↔ found.Perm fixtures) ∧
        (found.Perm fixtures → verify store s = ⟨.ok found, found.map detail, s'⟩) ∧
        (¬found.Perm fixtures → verify store s =
          ⟨.error (.mismatch fixtures found), [warning store.collection found.length], s'⟩)) ∧
    (∀ {σ : Type} (store : Store σ) (s s' : σ) (e : StoreError),
      store.all s = (.error e, s') → verify store s = ⟨.error (.store e), [], s'⟩) ∧
    ∀ (p q : Place) (w : World), q.contents (verify p.store w).state = q.contents w := by
  refine ⟨fun store s s' found h => ⟨verify_isOk_iff h, verify_of_perm h, verify_of_not_perm h⟩,
    fun store s s' e h => verify_of_all_error h, fun p q w => ?_⟩
  rw [verify_state]
  exact p.contents_all q w

/-- The fixed records with one of them twice and another one missing. -/
def repeated : List Employee :=
  [⟨"Jane", "Smith"⟩, ⟨"John", "Doe"⟩, ⟨"Jane", "Smith"⟩]

/-- In reverse the fixed records are accepted as they stand. As many
records with one of them twice are not, and a store out of service is
not looked into. -/
theorem verify_reversed_and_repeated :
    verify Memory.store (.ofRecords fixtures.reverse) =
      ⟨.ok fixtures.reverse,
        [⟨.debug, .seeder, "  Peter Jones"⟩, ⟨.debug, .seeder, "  Jane Smith"⟩,
          ⟨.debug, .seeder, "  John Doe"⟩],
        .ofRecords fixtures.reverse⟩ ∧
    verify Memory.store (.ofRecords repeated) =
      ⟨.error (.mismatch fixtures repeated),
        [⟨.warn, .seeder, "employees holds 3 records that do not match the fixtures"⟩],
        .ofRecords repeated⟩ ∧
    verify Memory.store ⟨fixtures, true⟩ =
      ⟨.error (.store .unavailable), [], ⟨fixtures, true⟩⟩ := by
  refine ⟨?_, ?_, ?_⟩
  · exact (verify_decides.1 Memory.store (.ofRecords fixtures.reverse) _ fixtures.reverse rfl).2.1
      (by decide)
  · exact (verify_decides.1 Memory.store (.ofRecords repeated) _ repeated rfl).2.2 (by decide)
  · exact verify_decides.2.1 Memory.store ⟨fixtures, true⟩ _ .unavailable rfl

end Roster.Seeder
