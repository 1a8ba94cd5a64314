import Roster.Json.Writer
import Roster.Proofs.Json.Reading

/-!
# `Roster.Proofs.Json.RoundTrip`: what is written is read back

The written text of a record spells the record, and that of a list the
list; so both are read back as they were (`decode_written`). All that
is to be tried on characters is `spelled_escape`: each class of the
writer is an escape of the grammar or a plain character.
-/

set_option autoImplicit false

namespace Roster.Json

variable {c : Char}

/-! ### Strings -/

/-- Two digits spell a number below the space, after two zeros. -/
theorem codeUnit_control {n : Nat} (h : n < 0x20) :
    CodeUnit ['0', '0', Text.hexDigit (n / 16), Text.hexDigit (n % 16)] n := by
  have hall : ∀ n < 0x20,
      ['0', '0', Text.hexDigit (n / 16), Text.hexDigit (n % 16)].all Text.isHexDigit = true ∧
      n = ['0', '0', Text.hexDigit (n / 16), Text.hexDigit (n % 16)].foldl
        (fun n d => 16 * n + Text.hexDigitValue d) 0 := by
    decide +kernel
  exact ⟨rfl, List.all_eq_true.mp (hall n h).1, (hall n h).2⟩

/-- A character is written as a piece of a string that stands for it. -/
theorem spelled_escape (c : Char) : Spelled (escape c) [c] := by
  have hshort : ∀ letter, (letter, c) ∈ shortEscapes → Spelled ['\\', letter] [c] :=
    fun letter hletter => .short letter c hletter .nil
  unfold escape
  split_ifs with hquote hslash h₁ h₂ h₃ h₄ h₅ hcontrol
  · exact hshort '"' (by subst hquote; decide)
  · exact hshort '\\' (by subst hslash; decide)
  · exact hshort 'b' (by subst h₁; decide)
  · exact hshort 't' (by subst h₂; decide)
  · exact hshort 'n' (by subst h₃; decide)
  · exact hshort 'f' (by subst h₄; decide)
  · exact hshort 'r' (by subst h₅; decide)
  · exact .unit _ c (codeUnit_control hcontrol) .nil
  · -- All that is left needs no escape, whether it is ASCII or not.
    exact .plain c ⟨hquote, hslash, Nat.not_lt.mp hcontrol⟩ .nil

/-- A text is written as a body that stands for it. -/
theorem spelled_flatMap_escape (cs : List Char) : Spelled (cs.flatMap escape) cs := by
  induction cs with
  | nil => exact .nil
  | cons c rest ih => exact (spelled_escape c).append ih

/-- A string is written as one that stands for it. -/
theorem isText_stringChars (s : String) : IsText (stringChars s) s :=
  ⟨s.toList.flatMap escape, rfl, spelled_flatMap_escape s.toList⟩

/-! ### Records -/

/-- A member without blanks, its name spelled as it would be written. -/
def bareEntry (name : String) (value : List Char) : Entry :=
  ⟨name, [], name.toList.flatMap escape, [], [], value, []⟩

theorem wellFormed_bareEntry {value : List Char} (name : String) (h : Value value) :
    (bareEntry name value).WellFormed where
  beforeName := .nil
  body := spelled_flatMap_escape _
  afterName := .nil
  beforeValue := .nil
  value := h
  afterValue := .nil

/-- The member that is written for a field. -/
def writtenEntry (field : Employee.Field) (value : String) : Entry where
  name := field.name
  beforeName := []
  body := field.name.toList.flatMap escape
  afterName := []
  beforeValue := []
  value := stringChars value
  afterValue := []

theorem chars_writtenEntry (field : Employee.Field) (value : String) :
    (writtenEntry field value).chars = memberChars field value := by
  simp [writtenEntry, Entry.chars, Entry.opening, memberChars, stringChars, quoted]

theorem wellFormed_writtenEntry (field : Employee.Field) (value : String) :
    (writtenEntry field value).WellFormed :=
  wellFormed_bareEntry field.name (isText_stringChars value).value

/-- The written text of a record spells the record. -/
theorem recordText_recordChars (e : Employee) : RecordText (recordChars e) e := by
  have hnames : Employee.Field.name .firstName ≠ Employee.Field.name .lastName := by decide
  have hchars : recordChars e =
      '{' :: (row ([writtenEntry .firstName e.firstName, writtenEntry .lastName e.lastName].map
        Entry.chars) ++ ['}']) := by
    simp [recordChars, row_cons_cons, row_singleton, chars_writtenEntry]
  rw [hchars]
  refine .object _ e ?_ ?_ ?_
  · intro entry hentry
    simp only [List.mem_cons, List.not_mem_nil, or_false] at hentry
    rcases hentry with rfl | rfl <;> exact wellFormed_writtenEntry _ _
  · refine ⟨writtenEntry .firstName e.firstName, ?_, isText_stringChars e.firstName⟩
    simp [writtenEntry, hnames.symm]
  · refine ⟨writtenEntry .lastName e.lastName, ?_, isText_stringChars e.lastName⟩
    simp [writtenEntry, hnames]

theorem paddedRecord_recordChars (e : Employee) : PaddedRecord (recordChars e) e :=
  ⟨[], recordChars e, [], by simp, .nil, recordText_recordChars e, .nil⟩

/-- A record is read back from its written text. -/
theorem decodeRecord_ofRecord (e : Employee) : decodeRecord (Text.utf8 (ofRecord e)) = .ok e := by
  rw [Text.utf8_eq_encode, ofRecord, String.toList_ofList]
  exact decodeRecord_of_padded (paddedRecord_recordChars e)

/-! ### Lists -/

/-- Records are written in a row. -/
theorem tailChars_eq (e : Employee) (rest : List Employee) :
    recordChars e ++ tailChars rest = row ((e :: rest).map recordChars) ++ [']'] := by
  induction rest generalizing e with
  | nil => simp [tailChars, row_singleton]
  | cons next more ih =>
    have htail : tailChars (next :: more) = ',' :: (recordChars next ++ tailChars more) := rfl
    rw [htail, ih, List.map_cons, List.map_cons, List.map_cons, row_cons_cons]
    simp

/-- The written text of a list spells the list. -/
theorem listText_listChars (records : List Employee) : ListText (listChars records) records := by
  cases records with
  | nil => exact .empty [] .nil
  | cons e rest =>
    have hlist : listChars (e :: rest) = '[' :: (recordChars e ++ tailChars rest) := rfl
    rw [hlist, tailChars_eq]
    refine .filled _ _ (by simp) ?_
    rw [List.forall₂_map_left_iff, List.forall₂_same]
    exact fun e _ => paddedRecord_recordChars e

/-- A list of records is read back from its written text. -/
theorem decodeRecords_ofRecords (records : List Employee) :
    decodeRecords (Text.utf8 (ofRecords records)) = .ok records := by
  rw [Text.utf8_eq_encode, ofRecords, String.toList_ofList]
  have hread := decodeRecords_of_padded .nil (listText_listChars records) .nil
  rwa [List.nil_append, List.append_nil] at hread

/-- What is written is read back: a list of records as the same list,
and one record as the same record. So no two lists have the same text,
and no two records. -/
theorem decode_written :
    (∀ records : List Employee, decodeRecords (Text.utf8 (ofRecords records)) = .ok records) ∧
    (∀ record : Employee, decodeRecord (Text.utf8 (ofRecord record)) = .ok record) ∧
    Function.Injective ofRecords ∧ Function.Injective ofRecord := by
  refine ⟨decodeRecords_ofRecords, decodeRecord_ofRecord, fun records records' hsame => ?_,
    fun record record' hsame => ?_⟩
  · have hread := decodeRecords_ofRecords records
    rw [hsame, decodeRecords_ofRecords records'] at hread
    exact (Except.ok.inj hread).symm
  · have hread := decodeRecord_ofRecord record
    rw [hsame, decodeRecord_ofRecord record'] at hread
    exact (Except.ok.inj hread).symm

end Roster.Json
