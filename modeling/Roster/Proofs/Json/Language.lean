import Roster.Proofs.Json.Reading

/-!
# `Roster.Proofs.Json.Language`: the texts that are read

A text is read as a record exactly if it spells the record, and as a
list exactly if it spells the list (`decode_iff_spelled`). That what
spells a record is read was shown before; here the states of the two
readers of whole texts tell what was read, so that nothing else is.
-/

set_option autoImplicit false

namespace Roster.Json

open Text (encode IsAscii IsWide)

variable {c : Char} {read text : List Char} {record : Employee} {records : List Employee}

/-- A record that is through has blanks before it. -/
theorem RecordPart.Passed.padded (h : RecordPart.Passed record read) :
    PaddedRecord read record := by
  obtain ⟨blanks, body, hblanks, hbody, rfl⟩ := h
  exact ⟨blanks, body, [], by simp, hblanks, hbody, .nil⟩

/-- Around a record, a wide byte is the record's. -/
theorem RecordPart.advance_wide {σ : Type} {onMore : RecordPart → σ} {onDone : Employee → σ}
    {p : RecordPart} {b : UInt8} {s' : σ} (hnarrow : p.Narrow) (hb : IsWide b)
    (h : (p.step b).map (Progress.advance onMore onDone) = .ok s') :
    ∃ p', s' = onMore p' ∧ p.step b = .ok (.more p') ∧ p'.Narrow := by
  obtain ⟨result, hanswer, rfl⟩ := answer_of_map h
  obtain ⟨p', rfl, hnarrow'⟩ := RecordPart.step_wide hb hnarrow hanswer
  exact ⟨p', rfl, hanswer, hnarrow'⟩

theorem PaddedRecord.blank (h : PaddedRecord text record) (hc : IsBlank c) :
    PaddedRecord (text ++ [c]) record := by
  obtain ⟨before, body, after, rfl, hbefore, hbody, hafter⟩ := h
  exact ⟨before, body, after ++ [c], by simp, hbefore, hbody, hafter.snoc hc⟩

/-! ### Texts that hold one record -/

namespace SingleState

variable {s s' : SingleState}

/-- What has been read where one record is expected. -/
inductive Seen : SingleState → List Char → Prop where
  | reading {part : RecordPart} {read : List Char} (h : part.Seen read) : Seen (.reading part) read
  | finished {record : Employee} {read : List Char} (h : PaddedRecord read record) :
      Seen (.finished record) read

theorem seen_step (h : s.Seen read) (hascii : IsAscii c) (hstep : s.step (byte c) = .ok s') :
    s'.Seen (read ++ [c]) := by
  cases h with
  | @reading part _ hpart =>
    obtain ⟨result, hanswer, rfl⟩ := answer_of_map hstep
    have htold := RecordPart.told_step hpart hascii hanswer
    cases result with
    | more part' => exact .reading htold
    | done record => exact .finished (RecordPart.Passed.padded htold)
  | finished hpadded =>
    simp only [step] at hstep
    split at hstep
    · rename_i hc
      cases hstep
      exact .finished (hpadded.blank (isBlank_of_byte hascii hc))
    · cases hstep

theorem seen_wide (h : s.Seen read) (hwide : ∀ b ∈ encode [c], IsWide b) (hsome : encode [c] ≠ [])
    (hgoes : Goes step id s (encode [c]) s') : s'.Seen (read ++ [c]) := by
  cases h with
  | @reading part _ hpart =>
    obtain ⟨p', rfl, hmore⟩ := hgoes.unlift SingleState.reading RecordPart.Narrow IsWide
      (fun _ _ _ hnarrow hb hstep => RecordPart.advance_wide hnarrow hb hstep) hpart.narrow hwide
    exact .reading (RecordPart.seen_wide hpart hwide hsome hmore)
  | finished =>
    obtain ⟨b, middle, hb, hstep⟩ := hgoes.first_wide hwide hsome
    simp only [step, (unclassed_of_wide hb).blank] at hstep
    cases hstep

end SingleState

/-- A text is read as the record that it spells, and only as that. -/
theorem decodeRecord_encode_iff :
    decodeRecord (encode text) = .ok record ↔ PaddedRecord text record := by
  refine ⟨fun h => ?_, decodeRecord_of_padded⟩
  obtain ⟨s, hgoes, hfinish⟩ := singleReader.run_eq_ok.mp h
  have hseen : s.Seen text := by
    refine Goes.invariant SingleState.Seen (.reading (.opening .nil)) ?_ ?_ hgoes
    · exact fun _ _ _ _ hascii hseen hstep => SingleState.seen_step hseen hascii hstep
    · exact fun _ _ _ _ hwide hsome hseen hgoes => SingleState.seen_wide hseen hwide hsome hgoes
  cases hseen with
  | reading => cases hfinish
  | finished hpadded =>
    cases hfinish
    exact hpadded

/-! ### Texts that hold a list of records -/

namespace ListState

variable {s s' : ListState}

/-- What has been read when a record may begin: the bracket, and records
with a comma after each. The last of them comes first. -/
def Led (records : List Employee) (read : List Char) : Prop :=
  ∃ front texts, Blanks front ∧ List.Forall₂ PaddedRecord texts records.reverse ∧
    read = front ++ '[' :: led texts

/-- What has been read after a record. -/
def Ended (records : List Employee) (read : List Char) : Prop :=
  ∃ front text record rest, Led rest front ∧ PaddedRecord text record ∧ records = record :: rest ∧
    read = front ++ text

/-- What has been read when the list is through. -/
def Passed (records : List Employee) (read : List Char) : Prop :=
  ∃ before body after, read = before ++ body ++ after ∧ Blanks before ∧ ListText body records ∧
    Blanks after

theorem Ended.blank (h : Ended records read) (hc : IsBlank c) : Ended records (read ++ [c]) := by
  obtain ⟨front, text, record, rest, hled, htext, rfl, rfl⟩ := h
  exact ⟨front, text ++ [c], record, rest, hled, htext.blank hc, rfl, List.append_assoc ..⟩

/-- A comma leads to the next record. -/
theorem Ended.comma (h : Ended records read) : Led records (read ++ [',']) := by
  obtain ⟨_, text, record, rest, ⟨front, texts, hfront, htexts, rfl⟩, htext, rfl, rfl⟩ := h
  refine ⟨front, texts ++ [text], hfront, ?_, by simp [led_snoc]⟩
  rw [List.reverse_cons]
  exact List.rel_append htexts (.cons htext .nil)

/-- The closing bracket ends the list. -/
theorem Ended.close (h : Ended records read) : Passed records.reverse (read ++ [']']) := by
  obtain ⟨_, text, record, rest, ⟨front, texts, hfront, htexts, rfl⟩, htext, rfl, rfl⟩ := h
  have htexts' : List.Forall₂ PaddedRecord (texts ++ [text]) (record :: rest).reverse := by
    rw [List.reverse_cons]
    exact List.rel_append htexts (.cons htext .nil)
  exact ⟨front, _, [], by simp [row_snoc], hfront, .filled (texts ++ [text]) _ (by simp) htexts',
    .nil⟩

/-- What has been read where a list is expected. -/
inductive Seen : ListState → List Char → Prop where
  | opening {read : List Char} (h : Blanks read) : Seen .opening read
  | opened {read front blanks : List Char} (hled : Led [] front) (hblanks : Blanks blanks)
      (hread : read = front ++ blanks) : Seen .opened read
  | nextRecord {records : List Employee} {read front blanks : List Char}
      (hled : Led records front) (hblanks : Blanks blanks) (hread : read = front ++ blanks) :
      Seen (.nextRecord records) read
  | reading {records : List Employee} {part : RecordPart} {read front rest : List Char}
      (hled : Led records front) (hpart : part.Seen rest) (hread : read = front ++ rest) :
      Seen (.reading records part) read
  | ended {records : List Employee} {read : List Char} (h : Ended records read) :
      Seen (.ended records) read
  | mistyped (m : Mistyped) (read : List Char) : Seen (.mistyped m) read
  | finished {records : List Employee} {read : List Char} (h : Passed records read) :
      Seen (.finished records) read

/-- A byte of a record. -/
theorem seen_recordStep {front rest : List Char} {part : RecordPart} (hled : Led records front)
    (hpart : part.Seen rest) (hread : read = front ++ rest) (hascii : IsAscii c)
    (hstep : recordStep records part (byte c) = .ok s') : s'.Seen (read ++ [c]) := by
  obtain ⟨result, hanswer, rfl⟩ := answer_of_map hstep
  have htold := RecordPart.told_step hpart hascii hanswer
  have hsplit : read ++ [c] = front ++ (rest ++ [c]) := by simp [hread]
  cases result with
  | more part' => exact .reading hled htold hsplit
  | done record =>
    exact .ended ⟨front, _, record, records, hled, RecordPart.Passed.padded htold, rfl, hsplit⟩

theorem seen_step (h : s.Seen read) (hascii : IsAscii c) (hstep : s.step (byte c) = .ok s') :
    s'.Seen (read ++ [c]) := by
  have hblank : Json.isBlank (byte c) = true → IsBlank c := isBlank_of_byte hascii
  have hbyte : ∀ {d : Char}, IsAscii d → byte c = byte d → c = d := fun hd =>
    Text.byte_inj hascii hd
  cases h with
  | opening hblanks =>
    simp only [step] at hstep
    split at hstep
    · rename_i hc
      cases hstep
      exact .opening (hblanks.snoc (hblank hc))
    · split at hstep
      · rename_i hopen
        cases hstep
        obtain rfl := hbyte (by decide) hopen
        exact .opened ⟨read, [], hblanks, .nil, rfl⟩ .nil (List.append_nil _).symm
      · obtain ⟨m, _, rfl⟩ := answer_of_map hstep
        exact .mistyped m _
  | opened hled hblanks hread =>
    simp only [step] at hstep
    split at hstep
    · rename_i hc
      cases hstep
      exact .opened hled (hblanks.snoc (hblank hc)) (by simp [hread])
    · split at hstep
      · rename_i hclose
        cases hstep
        obtain rfl := hbyte (by decide) hclose
        -- No record was read, so there are blanks between the brackets.
        obtain ⟨front, texts, hfront, htexts, rfl⟩ := hled
        cases htexts
        exact .finished ⟨front, _, [], by simp [hread, led], hfront, .empty _ hblanks, .nil⟩
      · -- The blanks before a record count as the record's.
        exact seen_recordStep hled (.opening hblanks) hread hascii hstep
  | nextRecord hled hblanks hread =>
    simp only [step] at hstep
    split at hstep
    · rename_i hc
      cases hstep
      exact .nextRecord hled (hblanks.snoc (hblank hc)) (by simp [hread])
    · split at hstep
      · cases hstep
      · exact seen_recordStep hled (.opening hblanks) hread hascii hstep
  | reading hled hpart hread => exact seen_recordStep hled hpart hread hascii hstep
  | ended hended =>
    simp only [step] at hstep
    split at hstep
    · rename_i hc
      cases hstep
      exact .ended (hended.blank (hblank hc))
    · split at hstep
      · rename_i hcomma
        cases hstep
        obtain rfl := hbyte (by decide) hcomma
        exact .nextRecord hended.comma .nil (List.append_nil _).symm
      · split at hstep
        · rename_i hclose
          cases hstep
          obtain rfl := hbyte (by decide) hclose
          exact .finished hended.close
        · cases hstep
  | mistyped m read =>
    obtain ⟨m', _, rfl⟩ := answer_of_map hstep
    exact .mistyped m' _
  | finished hpassed =>
    simp only [step] at hstep
    split at hstep
    · rename_i hc
      cases hstep
      obtain ⟨before, body, after, rfl, hbefore, hbody, hafter⟩ := hpassed
      exact .finished ⟨before, body, after ++ [c], by simp, hbefore, hbody,
        hafter.snoc (hblank hc)⟩
    · cases hstep

/-- A value of the wrong type stays one over all that follows. -/
theorem goes_mistyped {m : Mistyped} {read : List UInt8}
    (h : Goes step id (.mistyped m) read s') : ∃ m', s' = .mistyped m' := by
  induction read generalizing m with
  | nil =>
    cases h
    exact ⟨m, rfl⟩
  | cons b rest ih =>
    cases h with
    | cons hstep hrest =>
      obtain ⟨m', _, rfl⟩ := answer_of_map hstep
      exact ih hrest

/-- Between records there is no wide byte. -/
theorem step_wide {b : UInt8} (hb : IsWide b) (hstep : s.step b = .ok s') :
    (∃ records part, s = .reading records part) ∨ ∃ m, s = .mistyped m := by
  have hclass := unclassed_of_wide hb
  have hne : ∀ d, IsAscii d → ¬ b = byte d := hclass.ascii
  have hrecord : ∀ records, recordStep records .opening b ≠ .ok s' := by
    intro records heq
    have hbare : RecordPart.opening.Bare := trivial
    have hnarrow : RecordPart.opening.Narrow := trivial
    obtain ⟨p', _, hmore, _⟩ := RecordPart.advance_wide hnarrow hb heq
    exact nomatch (RecordPart.step_bare_wide hb hbare).symm.trans hmore
  cases s with
  | reading records part => exact .inl ⟨records, part, rfl⟩
  | mistyped m => exact .inr ⟨m, rfl⟩
  | opening =>
    simp only [step, hclass.blank, if_neg (hne '[' (by decide)), RecordPart.start_wide hb] at hstep
    cases hstep
  | opened =>
    simp only [step, hclass.blank, if_neg (hne ']' (by decide))] at hstep
    exact absurd hstep (hrecord [])
  | nextRecord records =>
    simp only [step, hclass.blank, if_neg (hne ']' (by decide))] at hstep
    exact absurd hstep (hrecord records)
  | ended =>
    simp only [step, hclass.blank, if_neg (hne ',' (by decide)),
      if_neg (hne ']' (by decide))] at hstep
    cases hstep
  | finished =>
    simp only [step, hclass.blank] at hstep
    cases hstep

theorem seen_wide (h : s.Seen read) (hwide : ∀ b ∈ encode [c], IsWide b) (hsome : encode [c] ≠ [])
    (hgoes : Goes step id s (encode [c]) s') : s'.Seen (read ++ [c]) := by
  have hinside : (∃ records part, s = .reading records part) ∨ ∃ m, s = .mistyped m := by
    obtain ⟨b, middle, hb, hstep⟩ := hgoes.first_wide hwide hsome
    exact step_wide hb hstep
  rcases hinside with ⟨records, part, rfl⟩ | ⟨m, rfl⟩
  · cases h with
    | reading hled hpart hread =>
      obtain ⟨p', rfl, hmore⟩ := hgoes.unlift (ListState.reading records) RecordPart.Narrow IsWide
        (fun _ _ _ hnarrow hb hstep => RecordPart.advance_wide hnarrow hb hstep) hpart.narrow hwide
      exact .reading hled (RecordPart.seen_wide hpart hwide hsome hmore) (by simp [hread])
  · obtain ⟨m', rfl⟩ := goes_mistyped hgoes
    exact .mistyped m' _

end ListState

/-- A text is read as the list that it spells, and only as that. -/
theorem decodeRecords_encode_iff : decodeRecords (encode text) = .ok records ↔
    ∃ before body after, text = before ++ body ++ after ∧ Blanks before ∧ ListText body records ∧
      Blanks after := by
  constructor
  · intro h
    obtain ⟨s, hgoes, hfinish⟩ := listReader.run_eq_ok.mp h
    have hseen : s.Seen text := by
      refine Goes.invariant ListState.Seen (.opening .nil) ?_ ?_ hgoes
      · exact fun _ _ _ _ hascii hseen hstep => ListState.seen_step hseen hascii hstep
      · exact fun _ _ _ _ hwide hsome hseen hgoes => ListState.seen_wide hseen hwide hsome hgoes
    cases hseen with
    | finished hpassed =>
      cases hfinish
      exact hpassed
    | _ => cases hfinish
  · rintro ⟨before, body, after, rfl, hbefore, hbody, hafter⟩
    exact decodeRecords_of_padded hbefore hbody hafter

/-- A text is read as a record exactly if it spells the record, and as a
list of records exactly if it spells the list; blanks around it do not
count. -/
theorem decode_iff_spelled (text : String) :
    (∀ record, decodeRecord (Text.utf8 text) = .ok record ↔
      ∃ before body after, text.toList = before ++ body ++ after ∧
        Blanks before ∧ RecordText body record ∧ Blanks after) ∧
    (∀ records, decodeRecords (Text.utf8 text) = .ok records ↔
      ∃ before body after, text.toList = before ++ body ++ after ∧
        Blanks before ∧ ListText body records ∧ Blanks after) := by
  rw [Text.utf8_eq_encode]
  exact ⟨fun _ => decodeRecord_encode_iff, fun _ => decodeRecords_encode_iff⟩

-- A name may be spelled with escapes; what is passed over need not be in
-- range or stand for a text.
example : decodeRecord (Text.utf8
    "\x7b\"first\\u004eame\":\"Ada\",\"age\":[1e999,\"\\ud800\"],\"lastName\":\"Byron\"\x7d\n") =
    .ok ⟨"Ada", "Byron"⟩ := by rfl

end Roster.Json
