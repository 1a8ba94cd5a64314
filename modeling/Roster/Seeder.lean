import Roster.Fixtures
import Roster.Outcome
import Roster.Store

/-!
# `Roster.Seeder`: leaving a store with the fixed records

Seeding replaces the records of a store by the fixed ones. Verifying
lists the records and compares them with the fixed ones, in whatever
order they are kept: both lists are sorted, and then they must agree
record by record. Neither knows what kind of store it works on.
-/

set_option autoImplicit false

namespace Roster

/-- Why seeding or verifying fails. -/
inductive SeedError where
  | store (cause : StoreError)
  /-- The store holds other records than it should. -/
  | mismatch (expected found : List Employee)
deriving DecidableEq, Repr

/-- What is said of a failure. -/
def SeedError.account : SeedError → Account
  | .store cause => cause.account.under "Store error: "
  | .mismatch expected found =>
    .closed ["Collection holds " ++ Employee.shownList found ++ ", expected "
      ++ Employee.shownList expected]

/-- What is said of a failure, if all the words are known. -/
def SeedError.message? (e : SeedError) : Option String :=
  e.account.message?

namespace Seeder

variable {σ : Type}

/-- An event that the seeder tells. -/
def tell (level : Level) (text : String) : Event :=
  ⟨level, .seeder, text⟩

/-- The line for one record. -/
def recordLine (e : Employee) : String :=
  "  " ++ e.firstName ++ " " ++ e.lastName

/-- Replaces the records of a store by the fixed ones and answers how
many were written. -/
def seed (store : Store σ) (s : σ) : Outcome σ SeedError Nat :=
  let opening := tell .info ("Clearing " ++ store.collection ++ " and seeding "
    ++ toString fixtures.length ++ " records...")
  match store.replace fixtures s with
  | (.error e, s) => ⟨.error (.store e), [opening], s⟩
  | (.ok count, s) =>
    ⟨.ok count,
      [opening, tell .info ("Seeded " ++ toString count ++ " records into " ++ store.collection)],
      s⟩

/-- Whether a list holds the fixed records and no others, in any
order. -/
def matchesFixtures (found : List Employee) : Bool :=
  Employee.sort found = Employee.sort fixtures

/-- Lists the records of a store and answers them in their order if
they are the fixed ones. -/
def verify (store : Store σ) (s : σ) : Outcome σ SeedError (List Employee) :=
  match store.all s with
  | (.error e, s) => ⟨.error (.store e), [], s⟩
  | (.ok found, s) =>
    if matchesFixtures found then
      ⟨.ok found, found.map fun e => tell .debug (recordLine e), s⟩
    else
      ⟨.error (.mismatch fixtures found),
        [tell .warn (store.collection ++ " holds " ++ toString found.length
          ++ " records that do not match the fixtures")],
        s⟩

end Seeder

end Roster
