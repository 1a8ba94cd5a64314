import Roster.Proofs.Text.Quoted
import Roster.Seeder

/-!
# `Roster.Proofs.Employee.Shown`: messages show which records they mean

Records are shown with their names in quotes, and a list with brackets
and commas around them. A name may hold quotes, brackets, commas or a
whole record as it would be shown: it is escaped, so none of this passes
for what stands around it. `shown_unambiguous` says so of lists: whatever
follows, the list and its end show. Two messages on records that do not
match are therefore the same only if they speak of the same lists, and
they keep to one line.
-/

set_option autoImplicit false

namespace Roster

namespace Employee

open Text (SelfDelimiting)
open Text.Quoted (IsControl OneLine)

/-! ### The end of a list shows -/

/-- A record delimits itself. -/
theorem selfDelimiting_shownChars : SelfDelimiting shownChars := by
  intro a b u v heq
  unfold shownChars at heq
  simp only [List.append_assoc] at heq
  obtain ⟨hfirst, hrest⟩ := Text.Quoted.selfDelimiting_chars (List.append_cancel_left heq)
  obtain ⟨hlast, hend⟩ := Text.Quoted.selfDelimiting_chars (List.append_cancel_left hrest)
  exact ⟨Employee.ext hfirst hlast, List.append_cancel_left hend⟩

/-- The records after the first, as the comma and the record in turn. -/
theorem shownTail_eq (records : List Employee) :
    shownTail records = records.flatMap (fun e => [',', ' '] ++ shownChars e) ++ [']'] := by
  induction records with
  | nil => rfl
  | cons e rest ih => simp [shownTail, ih]

/-- The records after the first delimit themselves: a comma begins each
of them, and the bracket that ends them is none. -/
theorem selfDelimiting_shownTail : SelfDelimiting shownTail := by
  have hitem := selfDelimiting_shownChars.after [',', ' ']
  have hbracket : ∀ e u v, ([',', ' '] ++ shownChars e) ++ u ≠ ']' :: v := by
    intro e u v heq
    exact absurd (List.cons.inj heq).1 (by decide)
  rw [funext shownTail_eq]
  exact hitem.many hbracket

/-- A list delimits itself. The character after the bracket tells whether
there is a first record. -/
theorem selfDelimiting_shownListChars : SelfDelimiting shownListChars := by
  have hopen : ∀ e u v, shownChars e ++ u ≠ ']' :: v := by
    intro e u v heq
    exact absurd (List.cons.inj heq).1 (by decide)
  intro as bs u v heq
  cases as with
  | nil =>
    cases bs with
    | nil => exact ⟨rfl, List.append_cancel_left heq⟩
    | cons b bs =>
      simp only [shownListChars, List.cons_append, List.append_assoc] at heq
      exact absurd (List.cons.inj heq).2.symm (hopen b _ _)
  | cons a as =>
    cases bs with
    | nil =>
      simp only [shownListChars, List.cons_append, List.append_assoc] at heq
      exact absurd (List.cons.inj heq).2 (hopen a _ _)
    | cons b bs =>
      simp only [shownListChars, List.cons_append, List.append_assoc] at heq
      obtain ⟨rfl, htail⟩ := selfDelimiting_shownChars (List.cons.inj heq).2
      obtain ⟨rfl, hend⟩ := selfDelimiting_shownTail htail
      exact ⟨rfl, hend⟩

/-- With texts after them two lists are shown alike only if they are the
same, and the texts too. -/
theorem shownList_append_inj {a b : List Employee} {u v : String}
    (h : shownList a ++ u = shownList b ++ v) : a = b ∧ u = v := by
  have hchars := congrArg String.toList h
  simp only [String.toList_append, shownList, String.toList_ofList] at hchars
  obtain ⟨hsame, hrest⟩ := selfDelimiting_shownListChars hchars
  exact ⟨hsame, String.toList_inj.mp hrest⟩

/-! ### No line is broken -/

/-- A record is shown without controls. -/
theorem oneLine_shownChars (e : Employee) : OneLine (shownChars e) := by
  have hlabels : OneLine "Employee \x7b first_name: ".toList ∧ OneLine ", last_name: ".toList ∧
      OneLine " \x7d".toList := by decide
  have hnames := Text.Quoted.oneLine_chars
  exact (((hlabels.1.append (hnames _)).append hlabels.2.1).append (hnames _)).append hlabels.2.2

/-- The records after the first are shown without controls. -/
theorem oneLine_shownTail (records : List Employee) : OneLine (shownTail records) := by
  induction records with
  | nil => decide
  | cons e rest ih =>
    have hcomma : OneLine [',', ' '] := by decide
    exact (hcomma.append (oneLine_shownChars e)).append ih

/-- A list is shown without controls. -/
theorem oneLine_shownListChars (records : List Employee) : OneLine (shownListChars records) := by
  cases records with
  | nil => decide
  | cons e rest =>
    have hbracket : OneLine ['['] := by decide
    exact (hbracket.append (oneLine_shownChars e)).append (oneLine_shownTail rest)

/-! ### Messages -/

/-- What is said of records that do not match. -/
def mismatchChars (expected found : List Employee) : List Char :=
  "Collection holds ".toList ++ shownListChars found ++ ", expected ".toList
    ++ shownListChars expected

theorem message?_mismatch (expected found : List Employee) :
    (SeedError.mismatch expected found).message? =
      some (String.ofList (mismatchChars expected found)) := by
  have hmessage : (SeedError.mismatch expected found).message? =
      some ("Collection holds " ++ shownList found ++ ", expected " ++ shownList expected) := rfl
  unfold mismatchChars
  rw [hmessage, String.ofList_append, String.ofList_append, String.ofList_append,
    String.ofList_toList, String.ofList_toList]
  rfl

/-- Messages that are the same speak of the same two lists: the one that
was found shows its end, so what follows it is the same too. -/
theorem mismatchChars_inj {expected found expected' found' : List Employee}
    (h : mismatchChars expected found = mismatchChars expected' found') :
    expected = expected' ∧ found = found' := by
  unfold mismatchChars at h
  simp only [List.append_assoc] at h
  obtain ⟨hfound, hrest⟩ := selfDelimiting_shownListChars (List.append_cancel_left h)
  have hexpected := List.append_cancel_left hrest
  rw [← List.append_nil (shownListChars expected), ← List.append_nil (shownListChars expected')]
    at hexpected
  exact ⟨(selfDelimiting_shownListChars hexpected).1, hfound⟩

/-- How lists of records are shown is unambiguous. Where two texts begin
with lists that are shown, they agree exactly if the lists do and what
follows them. So a message on records that do not match tells the records
that were found and those that were expected. No list and no such message
has a control in it. -/
theorem shown_unambiguous :
    (∀ (a b : List Employee) (u v : String),
      shownList a ++ u = shownList b ++ v ↔ a = b ∧ u = v) ∧
    (∀ expected found expected' found' : List Employee,
      (SeedError.mismatch expected found).message? =
          (SeedError.mismatch expected' found').message? ↔
        expected = expected' ∧ found = found') ∧
    (∀ records : List Employee, OneLine (shownList records).toList) ∧
    ∀ expected found : List Employee, ∃ message,
      (SeedError.mismatch expected found).message? = some message ∧ OneLine message.toList := by
  refine ⟨fun a b u v => ⟨shownList_append_inj, ?_⟩, fun expected found expected' found' => ?_,
    fun records => ?_, fun expected found => ⟨_, message?_mismatch expected found, ?_⟩⟩
  · rintro ⟨rfl, rfl⟩
    rfl
  · rw [message?_mismatch, message?_mismatch, Option.some_inj, String.ofList_inj]
    refine ⟨mismatchChars_inj, ?_⟩
    rintro ⟨rfl, rfl⟩
    rfl
  · rw [shownList, String.toList_ofList]
    exact oneLine_shownListChars records
  · have hlabels : OneLine "Collection holds ".toList ∧ OneLine ", expected ".toList := by decide
    rw [String.toList_ofList]
    exact ((hlabels.1.append (oneLine_shownListChars found)).append hlabels.2).append
      (oneLine_shownListChars expected)

-- A name that looks like a record is no record.
example : shownList [⟨"a\", last_name: \"b", "\n"⟩] =
    "[Employee \x7b first_name: \"a\\\", last_name: \\\"b\", last_name: \"\\n\" \x7d]" := by
  decide +kernel

end Employee

end Roster
