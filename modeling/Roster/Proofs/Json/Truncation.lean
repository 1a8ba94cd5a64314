import Roster.Proofs.Json.RoundTrip

/-!
# `Roster.Proofs.Json.Truncation`: written text that stops too early

A written list that is cut anywhere before its end is known for what it
is: the reader asks for more (`decodeRecords_of_cut`). It takes the
front neither for a shorter list nor for a text that breaks the grammar,
also where the cut falls inside a character.

That the text is read to its end does not tell what a reader says in
between. `Through` is a run that keeps account of that: every state which
it leaves again has a property, here that the text may not end in it.
-/

set_option autoImplicit false

namespace Roster.Json

open Text (encode IsAscii)
open Employee (Field Draft)

/-! ### Runs and the states on their way -/

section
variable {σ ρ : Type} {step : σ → UInt8 → Except Error ρ} {more : σ → ρ} {Q : σ → Prop}

/-- A reader gets from one state to another over some bytes, and every
state before a byte has a property. -/
inductive Through (step : σ → UInt8 → Except Error ρ) (more : σ → ρ) (Q : σ → Prop) :
    σ → List UInt8 → σ → Prop
  | nil (s : σ) : Through step more Q s [] s
  | cons {s middle s' : σ} {b : UInt8} {rest : List UInt8} (hs : Q s)
      (hstep : step s b = .ok (more middle)) (hrest : Through step more Q middle rest s') :
      Through step more Q s (b :: rest) s'

/-- One run after another. -/
theorem Through.append {s middle s' : σ} {first rest : List UInt8}
    (h : Through step more Q s first middle) (hrest : Through step more Q middle rest s') :
    Through step more Q s (first ++ rest) s' := by
  induction h with
  | nil => exact hrest
  | cons hs hstep _ ih => exact .cons hs hstep (ih hrest)

/-- One ASCII character. -/
theorem Through.char {s s' : σ} {c : Char} (hc : IsAscii c) (hs : Q s)
    (h : step s (byte c) = .ok (more s')) : Through step more Q s (encode [c]) s' := by
  rw [Text.encode_cons_ascii hc]
  exact .cons hs h (.nil s')

/-- Where a run is cut, its state has the property. -/
theorem Through.cut {s s' : σ} {front rest : List UInt8} (hsome : rest ≠ [])
    (h : Through step more Q s (front ++ rest) s') : ∃ m, Goes step more s front m ∧ Q m := by
  induction front generalizing s with
  | nil =>
    cases h with
    | nil => exact absurd rfl hsome
    | cons hs _ _ => exact ⟨s, .nil s, hs⟩
  | cons b front ih =>
    cases h with
    | cons _ hstep hrest =>
      obtain ⟨m, hgoes, hm⟩ := ih hrest
      exact ⟨m, .cons hstep hgoes, hm⟩

/-- A run is one whose states have a property that all states have. -/
theorem Goes.through (hall : ∀ s, Q s) {s s' : σ} {read : List UInt8}
    (h : Goes step more s read s') : Through step more Q s read s' := by
  induction h with
  | nil => exact .nil _
  | cons hstep _ ih => exact .cons (hall _) hstep ih

variable {σ' ρ' : Type} {step' : σ' → UInt8 → Except Error ρ'} {more' : σ' → ρ'} {Q' : σ' → Prop}

/-- A run of a part is a run of the whole. -/
theorem Through.lift (inside : σ → σ')
    (hmore : ∀ s b s', step s b = .ok (more s') →
      step' (inside s) b = .ok (more' (inside s')))
    (hkeeps : ∀ s, Q s → Q' (inside s)) {s s' : σ} {read : List UInt8}
    (h : Through step more Q s read s') :
    Through step' more' Q' (inside s) read (inside s') := by
  induction h with
  | nil => exact .nil _
  | cons hs hstep _ ih => exact .cons (hkeeps _ hs) (hmore _ _ _ hstep) ih

end

/-! ### Records -/

namespace RecordPart

variable {d : Draft} {field : Field} {text : String} {value : List Char} {p p' : RecordPart}

/-- A text that ends here stops too early. -/
def Unfinished (p : RecordPart) : Prop :=
  p.atEnd = .endOfInput

/-- No text may end inside a string. -/
theorem Slot.unfinished (slot : Slot) (token : TextToken) : (slot.part token).Unfinished := by
  cases slot <;> rfl

/-- A string is read where one may begin, and no text may end in it. -/
theorem through_text (slot : Slot) (htext : IsText value text) (hp : p.Unfinished)
    (hquote : p.step (byte '"') = .ok (.more (slot.part .start)))
    (hclose : ∀ token : TextToken, token.step (byte '"') = .ok (.done text) →
      (slot.part token).step (byte '"') = .ok (.more p')) :
    Through step .more Unfinished p (encode value) p' := by
  obtain ⟨body, rfl, hbody⟩ := htext
  obtain ⟨token, htoken, hdone⟩ := (TextToken.closes_iff (by decide)).mpr ⟨rfl, hbody⟩
  -- Of the token itself nothing is asked: wherever it is, the string is open.
  have hinside : Through step .more Unfinished (slot.part .start) (encode body)
      (slot.part token) :=
    (htoken.through fun _ => trivial).lift slot.part (fun _ _ _ => step_part_more slot)
      fun token _ => slot.unfinished token
  have hend : Through step .more Unfinished (slot.part token) (encode ['"']) p' :=
    .char (by decide) (slot.unfinished token) (hclose token hdone)
  rw [quoted, Text.encode_cons_ascii (by decide), Text.encode_append]
  exact .cons hp hquote (hinside.append hend)

/-- A written member is read where one may begin, if its field is new. -/
theorem through_member (hp : Expects d p) (hnew : d.get? field = none) :
    Through step .more Unfinished p (encode (memberChars field text))
      (.ended (d.set field text)) := by
  have hunfinished : p.Unfinished := by cases hp <;> rfl
  have hquote : p.step (byte '"') = .ok (.more ((Slot.name d).part .start)) := by
    cases hp with
    | opened hd =>
      subst hd
      rfl
    | nextName => rfl
  have hfield : Field.ofName? field.name = some field := Field.ofName?_eq_some_iff.mpr rfl
  have hname : Through step .more Unfinished p (encode (stringChars field.name))
      (.colon d (some field)) :=
    through_text (.name d) (isText_stringChars field.name) hunfinished hquote fun token hdone => by
      simp only [Slot.part, step, hdone, closeName, hfield, hnew, Option.isSome_none,
        Bool.false_eq_true, if_false, goOn]
  have hcolon : Through step .more Unfinished (.colon d (some field)) (encode [':'])
      (.value d field) :=
    .char (by decide) rfl rfl
  have hvalue : Through step .more Unfinished (.value d field) (encode (stringChars text))
      (.ended (d.set field text)) :=
    through_text (.value d field) (isText_stringChars text) rfl rfl fun token hdone => by
      simp only [Slot.part, step, hdone, goOn]
  have hwhole := hname.append (hcolon.append hvalue)
  rwa [← Text.encode_append, ← Text.encode_append] at hwhole

/-- A written record is read up to its closing brace. -/
theorem through_record (e : Employee) :
    Through step .more Unfinished .opened
      (encode (memberChars .firstName e.firstName ++ ',' :: memberChars .lastName e.lastName))
      (.ended ⟨some e.firstName, some e.lastName⟩) := by
  have hfirst : Through step .more Unfinished .opened
      (encode (memberChars .firstName e.firstName)) (.ended ⟨some e.firstName, none⟩) :=
    through_member (.opened rfl) rfl
  have hcomma : Through step .more Unfinished (.ended ⟨some e.firstName, none⟩) (encode [','])
      (.nextName ⟨some e.firstName, none⟩) :=
    .char (by decide) rfl rfl
  have hlast : Through step .more Unfinished (.nextName ⟨some e.firstName, none⟩)
      (encode (memberChars .lastName e.lastName)) (.ended ⟨some e.firstName, some e.lastName⟩) :=
    through_member .nextName rfl
  have hwhole := hfirst.append (hcomma.append hlast)
  rwa [← Text.encode_append, ← Text.encode_append] at hwhole

end RecordPart

/-! ### Lists -/

namespace ListState

variable {records : List Employee} {s : ListState}

/-- A text that ends here stops too early. -/
def Unfinished (s : ListState) : Prop :=
  s.finish = .error .endOfInput

/-- A written record is read where one may begin. -/
theorem through_record (hs : Expects records s) (e : Employee) :
    Through step id Unfinished s (encode (recordChars e)) (.ended (e :: records)) := by
  have hopen : Through step id Unfinished s (encode ['{']) (.reading records .opened) := by
    cases hs <;> exact .char (by decide) rfl rfl
  have hinside : Through step id Unfinished (.reading records .opened)
      (encode (memberChars .firstName e.firstName ++ ',' :: memberChars .lastName e.lastName))
      (.reading records (.ended ⟨some e.firstName, some e.lastName⟩)) :=
    (RecordPart.through_record e).lift (ListState.reading records)
      (fun _ _ _ => step_reading_more) fun p hp => by rw [Unfinished, finish, hp]
  have hclose : Through step id Unfinished
      (.reading records (.ended ⟨some e.firstName, some e.lastName⟩)) (encode ['}'])
      (.ended (e :: records)) :=
    .char (by decide) rfl rfl
  have hwhole := hopen.append (hinside.append hclose)
  rwa [← Text.encode_append, ← Text.encode_append] at hwhole

/-- What is written after a record is read to its end. -/
theorem through_tail (records rest : List Employee) :
    Through step id Unfinished (.ended records) (encode (tailChars rest))
      (.finished (records.reverse ++ rest)) := by
  -- A record that has been read joins those read before, so these are generalized.
  induction rest generalizing records with
  | nil =>
    rw [List.append_nil]
    exact .char (by decide) rfl rfl
  | cons e rest ih =>
    have hcomma : Through step id Unfinished (.ended records) (encode [','])
        (.nextRecord records) :=
      .char (by decide) rfl rfl
    have hwhole := hcomma.append ((through_record (.nextRecord records) e).append
      (ih (e :: records)))
    rw [List.reverse_cons, List.append_assoc] at hwhole
    rwa [← Text.encode_append, ← Text.encode_append] at hwhole

/-- A written list is read to its end. -/
theorem through_list (records : List Employee) :
    Through step id Unfinished .opening (encode (listChars records)) (.finished records) := by
  have hopen : Through step id Unfinished .opening (encode ['[']) .opened :=
    .char (by decide) rfl rfl
  cases records with
  | nil =>
    have hclose : Through step id Unfinished .opened (encode [']']) (.finished []) :=
      .char (by decide) rfl rfl
    have hwhole := hopen.append hclose
    rwa [← Text.encode_append] at hwhole
  | cons e rest =>
    have hwhole := hopen.append ((through_record .opened e).append (through_tail [e] rest))
    rwa [← Text.encode_append, ← Text.encode_append] at hwhole

end ListState

/-- A written list that is cut anywhere before its end is read as a text
that stops too early. -/
theorem decodeRecords_of_cut {records : List Employee} {front : List UInt8}
    (hfront : front <+: Text.utf8 (ofRecords records))
    (hcut : front ≠ Text.utf8 (ofRecords records)) :
    decodeRecords front = .error .endOfInput := by
  obtain ⟨rest, hwhole⟩ := hfront
  have hsome : rest ≠ [] := by
    rintro rfl
    exact hcut ((List.append_nil front).symm.trans hwhole)
  have hthrough := ListState.through_list records
  rw [Text.utf8_eq_encode, ofRecords, String.toList_ofList] at hwhole
  rw [← hwhole] at hthrough
  obtain ⟨s, hgoes, hs⟩ := hthrough.cut hsome
  have hafter : listReader.after listReader.start front = .ok s :=
    listReader.after_eq_ok.mpr hgoes
  rw [decodeRecords, Reader.run, hafter]
  exact hs

/-- The cut falls between the two bytes of one character of a name. -/
theorem decodeRecords_of_cut_inside_character :
    let front := Text.utf8 "[\x7b\"firstName\":\"Zo" ++ [0xC3]
    let whole := Text.utf8 (ofRecords [⟨"Zoë", "Noir"⟩])
    front <+: whole ∧ front ≠ whole ∧ decodeRecords front = .error .endOfInput := by
  have hfront : Text.utf8 "[\x7b\"firstName\":\"Zo" ++ [0xC3] <+:
      Text.utf8 (ofRecords [⟨"Zoë", "Noir"⟩]) := by
    decide +kernel
  have hcut : Text.utf8 "[\x7b\"firstName\":\"Zo" ++ [0xC3] ≠
      Text.utf8 (ofRecords [⟨"Zoë", "Noir"⟩]) := by
    decide +kernel
  exact ⟨hfront, hcut, decodeRecords_of_cut hfront hcut⟩

end Roster.Json
