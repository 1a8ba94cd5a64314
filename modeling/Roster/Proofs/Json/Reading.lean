import Roster.Json.Decoder
import Roster.Proofs.Json.Passing
import Roster.Proofs.Json.Record

/-!
# `Roster.Proofs.Json.Reading`: every record is read

What spells a record is read as that record, and what spells a list as
that list (`decodeRecord_of_padded`, `decodeRecords_of_padded`).

A member that is passed over may end in a number, and then only the byte
after it tells that it is through. `RecordPart.Settled` is the state
between members, with or without such a number.
-/

set_option autoImplicit false

namespace Roster.Json

open Text (encode IsAscii)
open Employee (Field Draft)

namespace RecordPart

variable {c : Char} {d d' : Draft} {text : String} {record : Employee}
  {value body blanks : List Char} {entry : Entry} {entries : List Entry} {p p' : RecordPart}

/-! ### Members -/

/-- A member is through, or it ends in a number that may end here. -/
inductive Settled (d : Draft) : RecordPart → Prop where
  | ended : Settled d (.ended d)
  | number (part : NumberPart) (h : part.isComplete = true) :
      Settled d (.skipped d ⟨[], .number part⟩)

/-- What may follow a member ends a number. -/
theorem next_afterMember {part : NumberPart} (h : part.isComplete = true)
    (hc : IsBlank c ∨ c = ',' ∨ c = '}') : part.next (byte c) = .ends := by
  rcases hc with hc | rfl | rfl
  · exact Skip.next_blank h hc
  · exact Skip.next_ends h (by decide) rfl (by decide) (by decide) (by decide)
  · exact Skip.next_ends h (by decide) rfl (by decide) (by decide) (by decide)

/-- What may follow a member is told by the byte alone. -/
theorem Settled.step_eq (h : Settled d p) (hc : IsBlank c ∨ c = ',' ∨ c = '}') :
    p.step (byte c) = afterMember d (byte c) := by
  cases h with
  | ended => rfl
  | number part hcomplete =>
    have hbefore : Skip.step ⟨[], .number part⟩ (byte c) = .ok .before := by
      simp only [Skip.step, next_afterMember hcomplete hc]
    simp only [step, hbefore]

/-- After a member blanks are passed over. -/
theorem Settled.wait (h : Settled d p) (hblanks : Blanks blanks) :
    ∃ p', Settled d p' ∧ Goes step .more p (encode blanks) p' := by
  have hblank : ∀ {p c}, Settled d p → IsBlank c → p.step (byte c) = .ok (.more (.ended d)) := by
    intro p c hp hc
    rw [hp.step_eq (.inl hc), afterMember, if_pos (hc.byte), goOn]
  cases blanks with
  | nil => exact ⟨p, h, .nil p⟩
  | cons c rest =>
    obtain ⟨hc, hrest⟩ := List.forall_mem_cons.mp hblanks
    rw [Text.encode_cons_ascii hc.isAscii]
    exact ⟨_, .ended, .cons (hblank h hc) (Goes.blanks (fun c hc => hblank .ended hc) hrest)⟩

/-- A comma leads to the next member. -/
theorem Settled.comma (h : Settled d p) : p.step (byte ',') = .ok (.more (.nextName d)) :=
  h.step_eq (.inr (.inl rfl))

/-- The closing brace ends a complete record. -/
theorem Settled.close (h : Settled d p) (hcomplete : d.complete = .ok record) :
    p.step (byte '}') = .ok (.done record) := by
  have hclose : p.step (byte '}') = RecordPart.close d := h.step_eq (.inr (.inr rfl))
  rw [hclose, RecordPart.close, hcomplete]

/-- A string is read where one may begin. -/
theorem goes_text (slot : Slot) (htext : IsText value text)
    (hquote : p.step (byte '"') = .ok (.more (slot.part .start)))
    (hclose : ∀ token : TextToken, token.step (byte '"') = .ok (.done text) →
      (slot.part token).step (byte '"') = .ok (.more p')) :
    Goes step .more p (encode value) p' := by
  obtain ⟨body, rfl, hbody⟩ := htext
  obtain ⟨token, htoken, hdone⟩ := (TextToken.closes_iff (by decide)).mpr ⟨rfl, hbody⟩
  have hinside := htoken.lift slot.part fun _ _ _ hstep => step_part_more slot hstep
  rw [quoted, Text.encode_cons_ascii (by decide), Text.encode_append]
  exact .cons hquote (hinside.append (.char (by decide) (hclose token hdone)))

/-- A value of no field is passed over. -/
theorem goes_skipped (d : Draft) (hblanks : Blanks blanks) (hvalue : Value value) :
    ∃ p', Settled d p' ∧ Goes step .more (.skipped d .start) (encode (blanks ++ value)) p' := by
  have hmore : ∀ skip b skip', Skip.step skip b = .ok (.more skip') →
      step (.skipped d skip) b = .ok (.more (.skipped d skip')) := by
    intro skip b skip' hstep
    simp only [step, hstep, goOn]
  have hwait : Goes step .more (.skipped d .start) (encode blanks) (.skipped d .start) :=
    (Skip.goes_blanks (.inl rfl) hblanks).lift (skipped d) hmore
  rw [Text.encode_append]
  rcases Skip.reads_of_derives hvalue [] with h | ⟨part, hcomplete, h⟩
  · have hdone : ∀ skip b, Skip.step skip b = .ok .done →
        step (.skipped d skip) b = .ok (.more (.ended d)) := by
      intro skip b hstep
      simp only [step, hstep, goOn]
    exact ⟨_, .ended, hwait.append (h.lift (skipped d) hmore hdone).goes⟩
  · exact ⟨_, .number part hcomplete, hwait.append (h.lift (skipped d) hmore)⟩

/-- A name is read, unless it is that of a field that was read before. -/
theorem goes_name {name : String}
    (hnew : ∀ field, Field.ofName? name = some field → d.get? field = none)
    (hname : Spelled body name.toList)
    (hquote : p.step (byte '"') = .ok (.more (.name d .start))) :
    Goes step .more p (encode (quoted body)) (.colon d (Field.ofName? name)) := by
  refine goes_text (.name d) ⟨body, rfl, hname⟩ hquote fun token hdone => ?_
  simp only [Slot.part, step, hdone, closeName]
  -- A field's name passes because the field is new to the draft.
  cases hfield : Field.ofName? name with
  | none => simp only [goOn]
  | some field => simp [hnew field hfield, goOn]

/-- The value of a member is read. -/
theorem goes_value (hadds : Adds d entry d') (hblanks : Blanks blanks)
    (hvalue : Value entry.value) :
    ∃ p', Settled d' p' ∧ Goes step .more (.colon d (Field.ofName? entry.name))
      (encode (':' :: (blanks ++ entry.value))) p' := by
  rw [Text.encode_cons_ascii (by decide)]
  cases hadds with
  | other hother =>
    obtain ⟨p', hp', hgoes⟩ := goes_skipped d hblanks hvalue
    rw [hother]
    exact ⟨p', hp', .cons rfl hgoes⟩
  | field field text hfield hnew htext =>
    -- The value has to be a string, and is kept.
    have hwait : Goes step .more (.value d field) (encode blanks) (.value d field) :=
      Goes.blanks (fun c hc => by simp only [step, hc.byte, if_true, goOn]) hblanks
    have hread :
        Goes step .more (.value d field) (encode entry.value) (.ended (d.set field text)) :=
      goes_text (.value d field) htext rfl fun token hdone => by
        simp only [Slot.part, step, hdone, goOn]
    rw [hfield, Text.encode_append]
    exact ⟨_, .ended, .cons rfl (hwait.append hread)⟩

/-- The states in which a member may begin. -/
inductive Expects (d : Draft) : RecordPart → Prop where
  | opened (h : d = .empty) : Expects d .opened
  | nextName : Expects d (.nextName d)

/-- Before a member blanks are passed over. -/
theorem Expects.wait (hp : Expects d p) (hblanks : Blanks blanks) :
    Goes step .more p (encode blanks) p :=
  Goes.blanks (fun c hc => by cases hp <;> simp only [step, hc.byte, if_true, goOn]) hblanks

/-- A quote begins the name of a member. -/
theorem Expects.quote (hp : Expects d p) :
    p.step (byte '"') = .ok (.more (.name d .start)) := by
  cases hp with
  | opened hd =>
    subst hd
    rfl
  | nextName => rfl

/-- A name is read where a member may begin, up to the colon. -/
theorem goes_toColon (hp : Expects d p) (hentry : entry.WellFormed)
    (hnew : ∀ field, Field.ofName? entry.name = some field → d.get? field = none) :
    Goes step .more p (encode (entry.beforeName ++ quoted entry.body ++ entry.afterName))
      (.colon d (Field.ofName? entry.name)) := by
  have hwait : Goes step .more (.colon d (Field.ofName? entry.name)) (encode entry.afterName)
      (.colon d (Field.ofName? entry.name)) :=
    Goes.blanks (fun c hc => by simp only [step, hc.byte, if_true, goOn]) hentry.afterName
  rw [Text.encode_append, Text.encode_append]
  exact ((hp.wait hentry.beforeName).append (goes_name hnew hentry.body hp.quote)).append hwait

/-- A member is read where one may begin. -/
theorem goes_entry (hp : Expects d p) (hentry : entry.WellFormed) (hadds : Adds d entry d') :
    ∃ p', Settled d' p' ∧ Goes step .more p (encode entry.chars) p' := by
  obtain ⟨q, hq, hvalue⟩ := goes_value hadds hentry.beforeValue hentry.value
  obtain ⟨p', hp', htrail⟩ := hq.wait hentry.afterValue
  refine ⟨p', hp', ?_⟩
  have hwhole := ((goes_toColon hp hentry hadds.new).append hvalue).append htrail
  simpa only [Entry.chars, Entry.opening, ← Text.encode_append, List.append_assoc,
    List.cons_append] using hwhole

/-- A row of members is read. -/
theorem goes_row (hp : Expects d p) (hsome : entries ≠ [])
    (hentries : ∀ entry ∈ entries, entry.WellFormed) (hfills : Fills d entries d') :
    ∃ p', Settled d' p' ∧ Goes step .more p (encode (row (entries.map Entry.chars))) p' := by
  induction hfills generalizing p with
  | nil => exact absurd rfl hsome
  | @cons d d₁ d' entry rest hadds hrest ih =>
    obtain ⟨hentry, hothers⟩ := List.forall_mem_cons.mp hentries
    obtain ⟨q, hq, hgoes⟩ := goes_entry hp hentry hadds
    cases rest with
    | nil =>
      cases hrest
      rw [List.map_singleton, row_singleton]
      exact ⟨q, hq, hgoes⟩
    | cons next more =>
      obtain ⟨p', hp', hmore⟩ := ih .nextName (by simp) hothers
      refine ⟨p', hp', ?_⟩
      rw [List.map_cons, List.map_cons, row_cons_cons, Text.encode_append,
        Text.encode_cons_ascii (by decide)]
      exact hgoes.append (.cons hq.comma hmore)

/-! ### Records -/

/-- What spells a record is read as the record. -/
theorem takes_of_recordText (h : RecordText body record) :
    Takes step .more .opening (encode body) (.done record) := by
  cases h with
  | object entries _ hentries hfirst hlast =>
    -- That each field has one member is what lets every name pass.
    obtain ⟨d, hfills, hcomplete⟩ := fills_complete_iff.mpr ⟨hfirst, hlast⟩
    have hsome : entries ≠ [] := by
      rintro rfl
      obtain ⟨_, hnone, _⟩ := hfirst
      exact nomatch hnone
    obtain ⟨p, hp, hrow⟩ := goes_row (.opened rfl) hsome hentries hfills
    rw [Text.encode_cons_ascii (by decide), Text.encode_append]
    have hopen : Goes step .more .opening [byte '{'] .opened := .single rfl
    exact (hopen.append hrow).takes (hp.close hcomplete)
  | list a first b c last d _ ha hfirst hb hc hlast hd =>
    have hwait : ∀ {p}, (∀ c, IsBlank c → p.step (byte c) = .ok (.more p)) → ∀ {cs}, Blanks cs →
        Goes step .more p (encode cs) p := fun hp _ hcs => Goes.blanks hp hcs
    have hread : Goes step .more .firstSlot (encode first) (.afterFirst record.firstName) :=
      goes_text .first hfirst rfl fun token hdone => by simp only [Slot.part, step, hdone, goOn]
    have hread' : Goes step .more (.secondSlot record.firstName) (encode last)
        (.afterSecond record.firstName record.lastName) :=
      goes_text (.second record.firstName) hlast rfl fun token hdone => by
        simp only [Slot.part, step, hdone, goOn]
    have hopen : Goes step .more .opening [byte '['] .firstSlot := .single rfl
    have hcomma : Goes step .more (.afterFirst record.firstName) [byte ',']
        (.secondSlot record.firstName) := .single rfl
    have hblank : ∀ {c}, IsBlank c → Json.isBlank (byte c) = true := IsBlank.byte
    have hone := (hwait (fun c hc => by simp only [step, hblank hc, if_true, goOn]) ha).append
      (hread.append (hwait (fun c hc => by simp only [step, hblank hc, if_true, goOn]) hb))
    have htwo := (hwait (fun c hc => by simp only [step, hblank hc, if_true, goOn]) hc).append
      (hread'.append (hwait (fun c hc => by simp only [step, hblank hc, if_true, goOn]) hd))
    have hclose : step (.afterSecond record.firstName record.lastName) (byte ']') =
        .ok (.done record) := rfl
    have hwhole := (hopen.append (hone.append (hcomma.append htwo))).takes hclose
    have hascii : IsAscii '[' ∧ IsAscii ',' ∧ IsAscii ']' := by decide
    simpa only [row_cons_cons, row_singleton, Text.encode_append, Text.encode_cons_ascii hascii.1,
      Text.encode_cons_ascii hascii.2.1, Text.encode_cons_ascii hascii.2.2, Text.encode_nil,
      List.append_assoc, List.cons_append, List.nil_append] using hwhole

end RecordPart

/-! ### Texts that hold one record -/

variable {text body : List Char} {record : Employee} {records : List Employee}

namespace SingleState

variable {p p' : RecordPart} {b : UInt8} {e : Error}

/-- A record is read on inside the text that holds it. -/
theorem step_reading_more (h : p.step b = .ok (.more p')) :
    step (.reading p) b = .ok (.reading p') := by
  simp only [step, h]
  rfl

/-- With the record the text is through. -/
theorem step_reading_done (h : p.step b = .ok (.done record)) :
    step (.reading p) b = .ok (.finished record) := by
  simp only [step, h]
  rfl

/-- A fault in the record is one in the text. -/
theorem step_reading_error (h : p.step b = .error e) : step (.reading p) b = .error e := by
  simp only [step, h]
  rfl

/-- Before the record blanks are passed over. -/
theorem goes_before {before : List Char} (h : Blanks before) :
    Goes step id (.reading .opening) (encode before) (.reading .opening) :=
  Goes.blanks (fun c hc => step_reading_more (by
    simp only [RecordPart.step, hc.byte, if_true, RecordPart.goOn])) h

/-- After the record blanks are passed over. -/
theorem goes_after {after : List Char} (h : Blanks after) :
    Goes step id (.finished record) (encode after) (.finished record) :=
  Goes.blanks (fun c hc => by simp only [step, hc.byte, if_true, id]) h

end SingleState

/-- Where one record is expected, what is read as one is read with blanks
around it. -/
theorem singleReader_goes {before after : List Char} (hbefore : Blanks before)
    (h : Takes RecordPart.step .more .opening (encode body) (.done record))
    (hafter : Blanks after) :
    Goes singleReader.step id singleReader.start (encode (before ++ body ++ after))
      (.finished record) := by
  have hread : Takes SingleState.step id (.reading .opening) (encode body) (.finished record) :=
    h.lift SingleState.reading (fun _ _ _ => SingleState.step_reading_more)
      fun _ _ => SingleState.step_reading_done
  rw [Text.encode_append, Text.encode_append]
  exact ((SingleState.goes_before hbefore).append hread.goes).append (SingleState.goes_after hafter)

/-- A text is read as the record that it spells. -/
theorem decodeRecord_of_padded (h : PaddedRecord text record) :
    decodeRecord (encode text) = .ok record := by
  obtain ⟨before, body, after, rfl, hbefore, hbody, hafter⟩ := h
  exact (singleReader.run_eq_ok).mpr
    ⟨_, singleReader_goes hbefore (RecordPart.takes_of_recordText hbody) hafter, rfl⟩

/-! ### Texts that hold a list of records -/

namespace ListState

/-- The states in which a record may begin. The records so far stand in
reverse. -/
inductive Expects : List Employee → ListState → Prop where
  | opened : Expects [] .opened
  | nextRecord (records : List Employee) : Expects records (.nextRecord records)

variable {s s' : ListState} {p p' : RecordPart} {b : UInt8}

/-- A record is read on inside the list. -/
theorem step_reading_more (h : p.step b = .ok (.more p')) :
    step (.reading records p) b = .ok (.reading records p') := by
  simp only [step, recordStep, h]
  rfl

/-- A record that is through joins the list. -/
theorem step_reading_done (h : p.step b = .ok (.done record)) :
    step (.reading records p) b = .ok (.ended (record :: records)) := by
  simp only [step, recordStep, h]
  rfl

/-- A record begins with a bracket. -/
theorem head_of_recordText (h : RecordText body record) :
    ∃ c rest, body = c :: rest ∧ (c = '{' ∨ c = '[') := by
  cases h with
  | object => exact ⟨_, _, rfl, .inl rfl⟩
  | list => exact ⟨_, _, rfl, .inr rfl⟩

/-- A record is read where one may begin. -/
theorem goes_record (hs : Expects records s) (h : PaddedRecord text record) :
    Goes step id s (encode text) (.ended (record :: records)) := by
  obtain ⟨before, body, after, rfl, hbefore, hbody, hafter⟩ := h
  have hwait : Goes step id s (encode before) s :=
    Goes.blanks (fun c hc => by cases hs <;> simp only [step, hc.byte, if_true, id])
      hbefore
  have hread : Takes step id (.reading records .opening) (encode body)
      (.ended (record :: records)) :=
    (RecordPart.takes_of_recordText hbody).lift (ListState.reading records)
      (fun _ _ _ => step_reading_more) fun _ _ => step_reading_done
  -- Before the bracket the list is not yet in a record.
  have hbegin : Takes step id s (encode body) (.ended (record :: records)) := by
    obtain ⟨c, rest, rfl, hc⟩ := head_of_recordText hbody
    have hascii : IsAscii c := by rcases hc with rfl | rfl <;> decide
    rw [Text.encode_cons_ascii hascii] at hread ⊢
    refine hread.of_first ?_
    rcases hc with rfl | rfl <;> cases hs <;> rfl
  have hrest : Goes step id (.ended (record :: records)) (encode after)
      (.ended (record :: records)) :=
    Goes.blanks (fun c hc => by simp only [step, hc.byte, if_true, id]) hafter
  rw [Text.encode_append, Text.encode_append]
  exact (hwait.append hbegin.goes).append hrest

/-- A row of records is read. -/
theorem goes_row {texts : List (List Char)} {front : List Employee} (hs : Expects front s)
    (hsome : records ≠ []) (h : List.Forall₂ PaddedRecord texts records) :
    Goes step id s (encode (row texts)) (.ended (records.reverse ++ front)) := by
  induction h generalizing front s with
  | nil => exact absurd rfl hsome
  | @cons text record texts records htext hrest ih =>
    have hread := goes_record hs htext
    cases hrest with
    | nil =>
      rw [row_singleton]
      exact hread
    | @cons next record' more records' hnext hmore =>
      have hrow := ih (.nextRecord (record :: front)) (by simp)
      rw [row_cons_cons, Text.encode_append, Text.encode_cons_ascii (by decide),
        List.reverse_cons, List.append_assoc]
      exact hread.append (.cons rfl hrow)

/-- What spells a list is read as the list. -/
theorem goes_of_listText (h : ListText body records) :
    Goes step id .opening (encode body) (.finished records) := by
  have hopen : Goes step id .opening [byte '['] .opened := .single rfl
  cases h with
  | empty blanks hblanks =>
    rw [Text.encode_cons_ascii (by decide), Text.encode_append]
    have hwait : Goes step id .opened (encode blanks) .opened :=
      Goes.blanks (fun c hc => by simp only [step, hc.byte, if_true, id]) hblanks
    exact hopen.append (hwait.append (.char (by decide) rfl))
  | filled texts _ hsome htexts =>
    rw [Text.encode_cons_ascii (by decide), Text.encode_append]
    have hrow := goes_row .opened hsome htexts
    rw [List.append_nil] at hrow
    have hclose : step (.ended records.reverse) (byte ']') = .ok (.finished records) := by
      have hstep : step (.ended records.reverse) (byte ']') =
          .ok (.finished records.reverse.reverse) := rfl
      rw [hstep, List.reverse_reverse]
    exact hopen.append (hrow.append (.char (by decide) hclose))

end ListState

/-- A text is read as the list of records that it spells. -/
theorem decodeRecords_of_padded {before after : List Char} (hbefore : Blanks before)
    (hbody : ListText body records) (hafter : Blanks after) :
    decodeRecords (encode (before ++ body ++ after)) = .ok records := by
  have hwait : Goes ListState.step id .opening (encode before) .opening :=
    Goes.blanks (fun c hc => by simp only [ListState.step, hc.byte, if_true, id])
      hbefore
  have hrest : Goes ListState.step id (.finished records) (encode after) (.finished records) :=
    Goes.blanks (fun c hc => by simp only [ListState.step, hc.byte, if_true, id])
      hafter
  refine listReader.run_eq_ok.mpr ⟨.finished records, ?_, rfl⟩
  rw [Text.encode_append, Text.encode_append]
  exact (hwait.append (ListState.goes_of_listText hbody)).append hrest

end Roster.Json
