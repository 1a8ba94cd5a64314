import Roster.Json.Decoder
import Roster.Proofs.Json.Number

/-!
# `Roster.Proofs.Json.Finality`: what is invalid stays invalid

A reader judges each byte when it comes, so a failure at one of them is
the failure of every text that goes on from there. Only what is said of
a text because it ends there can change when it does not end. Of faults
this leaves one: a number in the place of something else, which may go on
as long as it ends in a digit. So a text that does not end in a digit and
is found invalid is so with any bytes after it, for the same reason
(`invalid_whatever_follows`).

`Reader.run_append_of_invalid` is the argument for any reader. What it
asks of a reader, that only a digit leads to a state in which the end is
a fault, is shown part by part: for numbers, for values of the wrong
type, for records (`RecordPart.mistyped_cases` says how such a value
begins) and for the two readers of whole texts.
-/

set_option autoImplicit false

namespace Roster.Json

/-! ### Readers -/

section
variable {σ α : Type} {r : Reader σ α}

/-- A failure before the end stays whatever follows. -/
theorem Reader.run_append_of_after_error {front : List UInt8} {e : Error}
    (h : r.after r.start front = .error e) (rest : List UInt8) :
    r.run (front ++ rest) = .error e := by
  rw [Reader.run, Reader.after_append, h]
  rfl

/-- What is found invalid stays so, if nothing is found invalid at the end
but after a digit. -/
theorem Reader.run_append_of_invalid {front rest : List UInt8} {fault : Fault}
    (hstart : r.finish r.start ≠ .error (.invalid fault))
    (hdigit : ∀ s b s', r.step s b = .ok s' → r.finish s' = .error (.invalid fault) →
      isDigit b = true)
    (hfront : ∀ b ∈ front.getLast?, isDigit b = false)
    (h : r.run front = .error (.invalid fault)) :
    r.run (front ++ rest) = .error (.invalid fault) := by
  cases hafter : r.after r.start front with
  | error e =>
    have hrun : r.run front = .error e := by
      rw [Reader.run, hafter]
      rfl
    obtain rfl : e = .invalid fault := Except.error.inj (hrun.symm.trans h)
    exact Reader.run_append_of_after_error hafter rest
  | ok s =>
    -- Here the fault would come from the end, so the last byte is a digit.
    have hfinish : r.finish s = .error (.invalid fault) := by
      rwa [Reader.run, hafter] at h
    cases front using List.reverseRecOn with
    | nil =>
      cases hafter
      exact absurd hfinish hstart
    | append_singleton before last =>
      obtain ⟨middle, _, hlast⟩ := ((r.after_eq_ok).mp hafter).split
      cases hlast with
      | cons hstep hrest =>
        cases hrest
        have hyes := hdigit _ last _ hstep hfinish
        have hno := hfront last (by simp)
        cases hno.symm.trans hyes

end

/-! ### Values of the wrong type -/

variable {b : UInt8} {fault : Fault}

namespace NumberPart

variable {part part' : NumberPart}

/-- A number that may end after its first byte begins with a digit. -/
theorem isDigit_of_first? (h : first? b = some part) (hcomplete : part.isComplete = true) :
    isDigit b = true := by
  unfold first? at h
  split at h
  · cases h
    cases hcomplete
  · split at h
    · rename_i hzero
      subst hzero
      rfl
    · split at h
      · assumption
      · cases h

/-- A point or an exponent mark leaves a number open. -/
theorem not_isComplete_of_afterWhole (h : afterWhole b = .more part') :
    part'.isComplete = false := by
  unfold afterWhole at h
  split at h
  · cases h
    rfl
  · split at h
    · cases h
      rfl
    · cases h

/-- A number that may end has a digit as its last byte. -/
theorem isDigit_of_next (h : part.next b = .more part') (hcomplete : part'.isComplete = true) :
    isDigit b = true := by
  -- What may follow the whole part is no digit, but it leaves the number open.
  have hwhole : afterWhole b ≠ .more part' := by
    intro hafter
    exact nomatch (not_isComplete_of_afterWhole hafter).symm.trans hcomplete
  cases part with
  | minus =>
    simp only [next] at h
    split at h
    · rename_i hzero
      subst hzero
      rfl
    · split at h
      · assumption
      · cases h
  | zero =>
    simp only [next] at h
    split at h
    · cases h
    · exact absurd h hwhole
  | whole =>
    simp only [next] at h
    split at h
    · assumption
    · exact absurd h hwhole
  | fraction =>
    simp only [next] at h
    split at h
    · assumption
    · split at h <;> cases h
      cases hcomplete
  | mark =>
    simp only [next] at h
    split at h
    · cases h
      cases hcomplete
    · split at h
      · assumption
      · cases h
  | point | sign | exponent =>
    simp only [next] at h
    split at h
    · assumption
    · cases h

end NumberPart

namespace Mistyped

variable {m m' : Mistyped}

/-- The value is a number that may end here. -/
def EndsNumber (m : Mistyped) : Prop :=
  ∃ n : Numeral, m.value = .number n ∧ n.part.isComplete = true

/-- At the end only a number that may end is a fault. -/
theorem endsNumber_of_atEnd (h : m.atEnd = .invalid fault) : m.EndsNumber := by
  obtain ⟨expected, value⟩ := m
  cases value with
  | word => cases h
  | text => cases h
  | number n =>
    simp only [atEnd] at h
    split at h
    · rename_i hcomplete
      exact ⟨n, rfl, hcomplete⟩
    · cases h

/-- A number that may end after its first byte begins with a digit. -/
theorem isDigit_of_start {expected : Expected} (h : start expected b = .ok m)
    (hends : m.EndsNumber) : isDigit b = true := by
  obtain ⟨n, hvalue, hcomplete⟩ := hends
  unfold start at h
  split at h
  · cases h
    cases hvalue
  · split at h
    · rename_i part hpart
      cases h
      cases hvalue
      rw [Numeral.start, Numeral.push_part] at hcomplete
      exact NumberPart.isDigit_of_first? hpart hcomplete
    · -- Neither a string nor a bracket is a number.
      split at h
      · cases h
        cases hvalue
      · split at h
        · cases h
        · split at h <;> cases h

/-- A number that may end has a digit as its last byte. -/
theorem isDigit_of_step (h : m.step b = .ok m') (hends : m'.EndsNumber) : isDigit b = true := by
  obtain ⟨n', hvalue', hcomplete⟩ := hends
  obtain ⟨expected, value⟩ := m
  cases value with
  | word word rest =>
    simp only [step] at h
    split at h <;> cases h
    cases hvalue'
  | text token =>
    simp only [step] at h
    split at h <;> cases h
    cases hvalue'
  | number n =>
    simp only [step] at h
    split at h
    · rename_i part' hpart
      cases h
      cases hvalue'
      rw [Numeral.push_part] at hcomplete
      exact NumberPart.isDigit_of_next hpart hcomplete
    · unfold tellNumber at h
      cases h
    · cases h

end Mistyped

/-! ### Records -/

namespace RecordPart

variable {p : RecordPart} {m : Mistyped}

/-- At the end of a record only a number that may end is a fault. -/
theorem endsNumber_of_atEnd (h : p.atEnd = .invalid fault) :
    ∃ m, p = .mistyped m ∧ m.EndsNumber := by
  cases p with
  | mistyped m => exact ⟨m, rfl, Mistyped.endsNumber_of_atEnd h⟩
  | skipped draft skip =>
    obtain ⟨brackets, part⟩ := skip
    cases part with
    | number part =>
      simp only [atEnd, Skip.atEnd] at h
      split at h <;> cases h
    | _ => cases h
  | _ => cases h

/-- A value of the wrong type has begun with a byte, or has gone on with
it. -/
theorem mistyped_cases (h : p.step b = .ok (.more (.mistyped m))) :
    (∃ expected, Mistyped.start expected b = .ok m) ∨ ∃ before, Mistyped.step before b = .ok m := by
  have hwrong : ∀ {expected}, wrong expected b = .ok (.more (.mistyped m)) →
      ∃ expected, Mistyped.start expected b = .ok m := by
    intro expected heq
    obtain ⟨m', hstart, hsame⟩ := answer_of_map heq
    cases hsame
    exact ⟨expected, hstart⟩
  -- After a member only blanks, a comma and the brace are welcome, and no value.
  have hmember : ∀ {draft}, afterMember draft b ≠ .ok (.more (.mistyped m)) := by
    intro draft heq
    unfold afterMember goOn close at heq
    repeat' split at heq
    all_goals cases heq
  cases p with
  | mistyped before =>
    obtain ⟨m', hstep, hsame⟩ := answer_of_map h
    cases hsame
    exact .inr ⟨before, hstep⟩
  | opening =>
    simp only [step, openRecord, goOn] at h
    split at h
    · cases h
    · split at h
      · cases h
      · split at h
        · cases h
        · exact .inl (hwrong h)
  | value draft field =>
    simp only [step, goOn] at h
    split at h
    · cases h
    · split at h
      · cases h
      · exact .inl (hwrong h)
  | secondSlot first =>
    simp only [step, goOn] at h
    split at h
    · cases h
    · split at h
      · cases h
      · exact .inl (hwrong h)
  | firstSlot =>
    simp only [step, goOn] at h
    split at h
    · cases h
    · split at h
      · cases h
      · split at h
        · cases h
        · exact .inl (hwrong h)
  | ended draft => exact absurd h hmember
  | skipped draft skip =>
    simp only [step, goOn] at h
    split at h
    · cases h
    · cases h
    · exact absurd h hmember
    · cases h
  | _ =>
    -- No other part expects a value in place of which another could stand.
    simp only [step, goOn, openName, close, closeName] at h
    repeat' split at h
    all_goals cases h

/-- A record that is invalid if it ends here has a digit as its last
byte. -/
theorem isDigit_of_step {p' : RecordPart} (h : p.step b = .ok (.more p'))
    (hatEnd : p'.atEnd = .invalid fault) : isDigit b = true := by
  obtain ⟨m, rfl, hends⟩ := endsNumber_of_atEnd hatEnd
  rcases mistyped_cases h with ⟨expected, hstart⟩ | ⟨before, hstep⟩
  · exact Mistyped.isDigit_of_start hstart hends
  · exact Mistyped.isDigit_of_step hstep hends

end RecordPart

/-! ### Whole texts -/

/-- One record that is invalid if it ends here has a digit as its last
byte. -/
theorem SingleState.isDigit_of_step {s s' : SingleState} (h : s.step b = .ok s')
    (hfinish : s'.finish = .error (.invalid fault)) : isDigit b = true := by
  cases s with
  | finished record =>
    simp only [step] at h
    split at h <;> cases h
    cases hfinish
  | reading part =>
    obtain ⟨result, hanswer, rfl⟩ := answer_of_map h
    cases result with
    | done record => cases hfinish
    | more part' => exact RecordPart.isDigit_of_step hanswer (Except.error.inj hfinish)

/-- A list that is invalid if it ends here has a digit as its last
byte. -/
theorem ListState.isDigit_of_step {s s' : ListState} (h : s.step b = .ok s')
    (hfinish : s'.finish = .error (.invalid fault)) : isDigit b = true := by
  have hrecord : ∀ {records part}, recordStep records part b = .ok s' → isDigit b = true := by
    intro records part heq
    obtain ⟨result, hanswer, rfl⟩ := answer_of_map heq
    cases result with
    | done record => cases hfinish
    | more part' => exact RecordPart.isDigit_of_step hanswer (Except.error.inj hfinish)
  cases s with
  | reading records part => exact hrecord h
  | mistyped before =>
    obtain ⟨m, hstep, rfl⟩ := answer_of_map h
    exact Mistyped.isDigit_of_step hstep (Mistyped.endsNumber_of_atEnd (Except.error.inj hfinish))
  | opening =>
    simp only [step] at h
    split at h
    · cases h
      cases hfinish
    · split at h
      · cases h
        cases hfinish
      · obtain ⟨m, hstart, rfl⟩ := answer_of_map h
        exact Mistyped.isDigit_of_start hstart
          (Mistyped.endsNumber_of_atEnd (Except.error.inj hfinish))
  | opened =>
    simp only [step] at h
    split at h
    · cases h
      cases hfinish
    · split at h
      · cases h
        cases hfinish
      · exact hrecord h
  | nextRecord records =>
    simp only [step] at h
    split at h
    · cases h
      cases hfinish
    · split at h
      · cases h
      · exact hrecord h
  | ended | finished =>
    simp only [step] at h
    repeat' split at h
    all_goals cases h
    all_goals cases hfinish

/-- A text that was found invalid, as a record or as a list of records,
stays so with any bytes after it, for the same reason. Only after a digit
does it need to be known how the text goes on, because a number has no end
of its own. -/
theorem invalid_whatever_follows {front rest : List UInt8} {fault : Fault}
    (hfront : ∀ b ∈ front.getLast?, isDigit b = false) :
    (decodeRecord front = .error (.invalid fault) →
      decodeRecord (front ++ rest) = .error (.invalid fault)) ∧
    (decodeRecords front = .error (.invalid fault) →
      decodeRecords (front ++ rest) = .error (.invalid fault)) := by
  refine ⟨Reader.run_append_of_invalid nofun ?_ hfront,
    Reader.run_append_of_invalid nofun ?_ hfront⟩
  · exact fun _ _ _ => SingleState.isDigit_of_step
  · exact fun _ _ _ => ListState.isDigit_of_step

/-- A number in the place of a name is told once the comma has ended it,
and a name that comes twice at its second quote. Bytes that are no text
change neither. -/
theorem invalid_whatever_bytes_follow :
    let number := Text.utf8 "\x7b\"firstName\":1,"
    let twice := Text.utf8 "[\x7b\"firstName\":\"Ada\",\"firstName\""
    ((∀ b ∈ number.getLast?, isDigit b = false) ∧
      decodeRecord (number ++ [0xFF, 0x22]) =
        .error (.invalid (.mistyped (.integer 1) .text))) ∧
    (∀ b ∈ twice.getLast?, isDigit b = false) ∧
      decodeRecords (twice ++ [0xFF, 0x22]) = .error (.invalid (.duplicate .firstName)) := by
  have hnumber : ∀ b ∈ (Text.utf8 "\x7b\"firstName\":1,").getLast?, isDigit b = false := by
    decide +kernel
  have htwice : ∀ b ∈ (Text.utf8 "[\x7b\"firstName\":\"Ada\",\"firstName\"").getLast?,
      isDigit b = false := by
    decide +kernel
  exact ⟨⟨hnumber, (invalid_whatever_follows hnumber).1 rfl⟩,
    htwice, (invalid_whatever_follows htwice).2 rfl⟩

end Roster.Json
