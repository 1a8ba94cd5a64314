import Mathlib.Data.Rat.Defs
import Roster.Proofs.Json.Content
import Roster.Proofs.Json.RoundTrip

/-!
# `Roster.Proofs.Json.Scan`: the first fault decides

The reader of a record sees bytes. `scan` sees the members of an object,
each with its name and what its value holds, and goes through them from
left to right: the first member with a fault decides, and if none has
one, what is missing does. The two agree on every object whose names
stand for texts (`decodeRecord_of_object`), so nothing that comes later
hides or changes a fault, and a member that is no field's counts for
nothing.

The draft of the reader is what `Gathers` makes of the members so far.
`RecordPart.answers_row` is the induction over the members, with the
step split by whether the next one has a fault.

A number in the place of a name is told as a double where it is no
integer. Its reading rounds twice, and this puts some numbers out of
range that are not (`refused_number_in_range`).
-/

set_option autoImplicit false

namespace Roster.Json

open Text (encode IsAscii)
open Employee (Field Draft)

/-! ### Members from left to right -/

/-- A member of an object: its name, and what its value holds. -/
structure Member where
  name : String
  content : Content

namespace Member

/-- The field that a member is of, if it is of one. -/
def field? (m : Member) : Option Field :=
  Field.ofName? m.name

/-- The first member of a field. -/
def first? (field : Field) (members : List Member) : Option Member :=
  members.find? (·.field? = some field)

/-- The fault of a member after others, if it has one: its field had a
member before, whatever the value, or the value is no name. -/
def fault? (earlier : List Member) (m : Member) : Option Error :=
  match m.field? with
  | none => none
  | some field =>
    if (first? field earlier).isSome then some (.invalid (.duplicate field))
    else m.content.refusal?

/-- The record of members without a fault, unless a field is missing. -/
def record (members : List Member) : Except Error Employee :=
  match (first? .firstName members).bind (·.content.text?),
    (first? .lastName members).bind (·.content.text?) with
  | some first, some last => .ok ⟨first, last⟩
  | none, _ => .error (.invalid (.missing .firstName))
  | some _, none => .error (.invalid (.missing .lastName))

/-- What members say after earlier ones, from left to right. -/
def scan (earlier : List Member) : List Member → Except Error Employee
  | [] => record earlier
  | m :: rest =>
    match m.fault? earlier with
    | some e => .error e
    | none => scan (earlier ++ [m]) rest

variable {m : Member} {field : Field} {earlier members : List Member} {e : Error}

/-- A fault is all that is said. -/
theorem scan_of_fault (h : m.fault? earlier = some e) : scan earlier (m :: members) = .error e := by
  rw [scan, h]

/-- Without a fault a member joins the earlier ones. -/
theorem scan_of_no_fault (h : m.fault? earlier = none) :
    scan earlier (m :: members) = scan (earlier ++ [m]) members := by
  rw [scan, h]

/-- The first member of a field, one member on. -/
theorem first?_snoc : first? field (earlier ++ [m]) =
    (first? field earlier).or (if m.field? = some field then some m else none) := by
  simp only [first?, List.find?_append, List.find?_singleton, decide_eq_true_eq]

/-- Members that are no field's do not count. -/
theorem first?_filter : first? field (members.filter (·.field?.isSome)) = first? field members := by
  induction members with
  | nil => rfl
  | cons m rest ih =>
    unfold first? at ih ⊢
    cases hfield : m.field? with
    | none => simp [hfield, ih]
    | some own => simp [hfield, List.find?_cons, ih]

/-- What members say is said by those of fields. -/
theorem scan_filter : scan (earlier.filter (·.field?.isSome)) (members.filter (·.field?.isSome)) =
    scan earlier members := by
  -- The earlier members are generalized: the filter drops some of them too.
  induction members generalizing earlier with
  | nil => simp only [List.filter_nil, scan, record, first?_filter]
  | cons m rest ih =>
    have hearlier : scan ((earlier ++ [m]).filter (·.field?.isSome))
        (rest.filter (·.field?.isSome)) = scan (earlier ++ [m]) rest := ih
    cases hfield : m.field? with
    | none =>
      have hdrop : (m :: rest).filter (·.field?.isSome) = rest.filter (·.field?.isSome) := by
        simp [hfield]
      have hfault : m.fault? earlier = none := by simp only [fault?, hfield]
      rw [hdrop, scan_of_no_fault hfault, ← hearlier]
      simp [List.filter_append, hfield]
    | some own =>
      have hkeep : (m :: rest).filter (·.field?.isSome) = m :: rest.filter (·.field?.isSome) := by
        simp [hfield]
      have hfault : m.fault? (earlier.filter (·.field?.isSome)) = m.fault? earlier := by
        simp only [fault?, first?_filter]
      cases hown : m.fault? earlier with
      | some e => rw [hkeep, scan_of_fault (hfault.trans hown), scan_of_fault hown]
      | none =>
        rw [hkeep, scan_of_no_fault (hfault.trans hown), scan_of_no_fault hown, ← hearlier]
        simp [List.filter_append, hfield]

end Member

/-! ### Members and their spelling -/

/-- A spelled member means one with its name and with what its value
holds. -/
structure Entry.Means (entry : Entry) (m : Member) : Prop where
  name : m.name = entry.name
  content : Holds entry.value m.content

/-- Spelled members mean some members. -/
theorem exists_means {entries : List Entry} (h : ∀ entry ∈ entries, entry.WellFormed) :
    ∃ members, List.Forall₂ Entry.Means entries members := by
  induction entries with
  | nil => exact ⟨[], .nil⟩
  | cons entry rest ih =>
    obtain ⟨hentry, hrest⟩ := List.forall_mem_cons.mp h
    obtain ⟨content, hcontent⟩ := exists_holds hentry.value
    obtain ⟨members, hmembers⟩ := ih hrest
    exact ⟨⟨entry.name, content⟩ :: members, .cons ⟨rfl, hcontent⟩ hmembers⟩

/-- A text is an object with some members. -/
inductive ObjectText : List Char → List Entry → Prop where
  | empty (blanks : List Char) (h : Blanks blanks) : ObjectText ('{' :: (blanks ++ ['}'])) []
  | filled (entries : List Entry) (hsome : entries ≠ [])
      (hentries : ∀ entry ∈ entries, entry.WellFormed) :
      ObjectText ('{' :: (row (entries.map Entry.chars) ++ ['}'])) entries

/-- A text with blanks around an object with some members. -/
def PaddedObject (text : List Char) (entries : List Entry) : Prop :=
  ∃ before body after, text = before ++ body ++ after ∧
    Blanks before ∧ ObjectText body entries ∧ Blanks after

/-! ### The draft of the members so far -/

/-- A draft is what earlier members have given: of each field that has
come, the text of its first member. -/
def Gathers (earlier : List Member) (d : Draft) : Prop :=
  ∀ field, (Member.first? field earlier).map (·.content) = (d.get? field).map .text

section
variable {earlier : List Member} {d : Draft} {m : Member} {field : Field} {text : String}

theorem gathers_nil : Gathers [] .empty := by
  intro field
  cases field <;> rfl

/-- A draft has the fields that have come. -/
theorem Gathers.isSome_get? (h : Gathers earlier d) (field : Field) :
    (d.get? field).isSome = (Member.first? field earlier).isSome := by
  have hsome := congrArg Option.isSome (h field)
  rwa [Option.isSome_map, Option.isSome_map, eq_comm] at hsome

/-- A member that is no field's changes nothing. -/
theorem Gathers.other (h : Gathers earlier d) (hm : m.field? = none) :
    Gathers (earlier ++ [m]) d := by
  intro field
  rw [Member.first?_snoc, hm, if_neg nofun, Option.or_none]
  exact h field

/-- The first member of a field gives its text. -/
theorem Gathers.set (h : Gathers earlier d) (hm : m.field? = some field)
    (hnew : d.get? field = none) (htext : m.content = .text text) :
    Gathers (earlier ++ [m]) (d.set field text) := by
  intro other
  rw [Member.first?_snoc, Draft.get?_set, hm]
  by_cases hother : other = field
  · subst hother
    have hnone : Member.first? other earlier = none := by
      have hsame := h other
      rw [hnew] at hsame
      exact Option.map_eq_none_iff.mp hsame
    rw [hnone, if_pos rfl, if_pos rfl, Option.none_or, Option.map_some, htext, Option.map_some]
  · have hne : ¬ some field = some other := fun heq => hother (Option.some.inj heq).symm
    rw [if_neg hother, if_neg hne, Option.or_none]
    exact h other

/-- The draft is complete exactly if the members make a record, and what
it lacks first is what they lack first. -/
theorem Gathers.record (h : Gathers earlier d) :
    Member.record earlier = d.complete.mapError fun field => .invalid (.missing field) := by
  have htext : ∀ field, (Member.first? field earlier).bind (·.content.text?) = d.get? field := by
    intro field
    calc (Member.first? field earlier).bind (·.content.text?)
        = ((Member.first? field earlier).map (·.content)).bind Content.text? := by
          rw [Option.bind_map]
          rfl
      _ = ((d.get? field).map .text).bind Content.text? := by rw [h field]
      _ = d.get? field := by
          rw [Option.bind_map]
          exact Option.bind_fun_some _
  rw [Member.record, htext, htext]
  obtain ⟨first, last⟩ := d
  cases first <;> cases last <;> rfl

end

/-! ### Objects -/

namespace RecordPart

variable {c : Char} {rest : List Char} {d d' : Draft} {e : Error} {entry : Entry}
  {entries : List Entry} {field : Field} {m : Member} {earlier members : List Member}
  {p p' : RecordPart} {front read : List UInt8} {result : Except Error Employee}

/-- What is made of some bytes of a record: it is through with the last
of them, or it fails at one of them. -/
def Answers (p : RecordPart) (read : List UInt8) : Except Error Employee → Prop
  | .ok record => Takes step .more p read (.done record)
  | .error e => Fails step .more p read e

/-- An answer after a run. -/
theorem Answers.after (hread : Answers p' read result) (h : Goes step .more p front p') :
    Answers p (front ++ read) result := by
  cases result with
  | ok record => exact h.append_takes hread
  | error e => exact h.append_fails hread

/-- The closing brace is answered by what the members make. -/
theorem Settled.answers_close (h : Settled d p) (hgathers : Gathers earlier d) :
    Answers p (encode ['}']) (Member.record earlier) := by
  rw [hgathers.record, Text.encode_cons_ascii (by decide)]
  cases hcomplete : d.complete with
  | ok record =>
    exact (Goes.nil p).takes (h.close hcomplete)
  | error field =>
    have hclose : p.step (byte '}') = RecordPart.close d := h.step_eq (.inr (.inr rfl))
    rw [RecordPart.close, hcomplete] at hclose
    exact .first hclose _

/-- A field that has come is refused at its second name. -/
theorem fails_duplicate (hp : Expects d p) (hentry : entry.WellFormed)
    (hfield : Field.ofName? entry.name = some field) (hseen : (d.get? field).isSome = true)
    (rest : List Char) :
    Fails step .more p (encode (entry.chars ++ rest)) (.invalid (.duplicate field)) := by
  obtain ⟨token, htoken, hdone⟩ := (TextToken.closes_iff (by decide)).mpr ⟨rfl, hentry.body⟩
  have hquote : Goes step .more p (encode ['"']) (.name d .start) := .char (by decide) hp.quote
  have hinside : Goes step .more (.name d .start) (encode entry.body) (.name d token) :=
    htoken.lift (Slot.name d).part fun _ _ _ => step_part_more _
  -- The quote that closes the name is the last byte that counts.
  have hrefused : step (.name d token) (byte '"') = .error (.invalid (.duplicate field)) := by
    simp only [step, hdone, closeName, hfield, hseen, if_true]
  have hchars : entry.chars ++ rest = entry.beforeName ++ (['"'] ++ (entry.body ++ ('"' ::
      (entry.afterName ++ ':' :: (entry.beforeValue ++ (entry.value ++
        (entry.afterValue ++ rest))))))) := by
    simp [Entry.chars, Entry.opening, quoted]
  rw [hchars, Text.encode_append, Text.encode_append, Text.encode_append,
    Text.encode_cons_ascii (by decide) (entry.afterName ++ _)]
  exact (hp.wait hentry.beforeName).append_fails
    (hquote.append_fails (hinside.append_fails (.first hrefused _)))

/-- A field whose value is no name is refused at the value. -/
theorem fails_mistyped (hp : Expects d p) (hentry : entry.WellFormed) (hmeans : entry.Means m)
    (hfield : Field.ofName? entry.name = some field) (hnew : d.get? field = none)
    (hrefusal : m.content.refusal? = some e) (hc : c = ',' ∨ c = '}') :
    Fails step .more p (encode (entry.chars ++ c :: rest)) e := by
  -- The value is followed by a blank, or by what follows the member.
  obtain ⟨next, more, htail, hnext⟩ : ∃ next more, entry.afterValue ++ c :: rest = next :: more ∧
      (IsBlank next ∨ next = ',' ∨ next = '}') := by
    cases hafter : entry.afterValue with
    | nil => exact ⟨c, rest, rfl, .inr hc⟩
    | cons blank blanks =>
      have hblank : blank ∈ entry.afterValue := hafter ▸ List.mem_cons_self
      exact ⟨blank, _, rfl, .inl (hentry.afterValue blank hblank)⟩
  have hname := goes_toColon hp hentry fun other hother => by
    obtain rfl := Option.some.inj (hother.symm.trans hfield)
    exact hnew
  rw [hfield] at hname
  have hcolon : Goes step .more (.colon d (some field)) (encode [':']) (.value d field) :=
    .char (by decide) rfl
  have hwait : Goes step .more (.value d field) (encode entry.beforeValue) (.value d field) :=
    Goes.blanks (fun c hc => by simp only [step, hc.byte, if_true, goOn]) hentry.beforeValue
  have hvalue : Fails step .more (.value d field) (encode (entry.value ++ next :: more)) e :=
    fails_value hmeans.content hrefusal hnext
  have hwhole := hname.append_fails (hcolon.append_fails (hwait.append_fails hvalue))
  rw [← htail] at hwhole
  simpa only [Entry.chars, Entry.opening, ← Text.encode_append, List.append_assoc,
    List.cons_append, List.nil_append] using hwhole

/-- A member with a fault is refused, whatever comes after it. -/
theorem fails_of_fault (hp : Expects d p) (hgathers : Gathers earlier d)
    (hentry : entry.WellFormed) (hmeans : entry.Means m) (hfault : m.fault? earlier = some e)
    (hc : c = ',' ∨ c = '}') : Fails step .more p (encode (entry.chars ++ c :: rest)) e := by
  unfold Member.fault? Member.field? at hfault
  rw [hmeans.name] at hfault
  split at hfault
  · cases hfault
  · rename_i field hfield
    rw [← hgathers.isSome_get? field] at hfault
    split at hfault
    · rename_i hseen
      cases hfault
      exact fails_duplicate hp hentry hfield hseen _
    · rename_i hnew
      exact fails_mistyped hp hentry hmeans hfield (by simpa using hnew) hfault hc

/-- A member without a fault adds to the draft. -/
theorem exists_adds (hgathers : Gathers earlier d) (hmeans : entry.Means m)
    (hfault : m.fault? earlier = none) :
    ∃ d', Adds d entry d' ∧ Gathers (earlier ++ [m]) d' := by
  have hname : m.field? = Field.ofName? entry.name := by rw [Member.field?, hmeans.name]
  cases hfield : Field.ofName? entry.name with
  | none => exact ⟨d, .other hfield, hgathers.other (hname.trans hfield)⟩
  | some field =>
    simp only [Member.fault?, hname, hfield, ← hgathers.isSome_get? field] at hfault
    split at hfault
    · cases hfault
    · rename_i hnew
      have hnone : d.get? field = none := by simpa using hnew
      obtain ⟨text, htext⟩ := Content.exists_text_of_refusal?_eq_none hfault
      have hvalue : IsText entry.value text := (htext ▸ hmeans.content).isText
      exact ⟨d.set field text, .field field text hfield hnone hvalue,
        hgathers.set (hname.trans hfield) hnone htext⟩

/-- A row of members and the closing brace are answered by what the
members say. -/
theorem answers_row (hp : Expects d p) (hgathers : Gathers earlier d) (hsome : entries ≠ [])
    (hentries : ∀ entry ∈ entries, entry.WellFormed)
    (hmeans : List.Forall₂ Entry.Means entries members) :
    Answers p (encode (row (entries.map Entry.chars) ++ ['}'])) (Member.scan earlier members) := by
  -- Along the members the invariant is that the draft is what the earlier ones have given.
  induction hmeans generalizing earlier d p with
  | nil => exact absurd rfl hsome
  | @cons entry m entries members hmean hrest ih =>
    obtain ⟨hentry, hothers⟩ := List.forall_mem_cons.mp hentries
    -- After the member stands a comma or the brace.
    obtain ⟨c, rest, hchars, hc⟩ : ∃ c rest,
        row ((entry :: entries).map Entry.chars) ++ ['}'] = entry.chars ++ c :: rest ∧
          (c = ',' ∨ c = '}') := by
      cases entries with
      | nil => exact ⟨'}', [], by simp [row_singleton], .inr rfl⟩
      | cons next more =>
        exact ⟨',', row ((next :: more).map Entry.chars) ++ ['}'], by simp [row_cons_cons],
          .inl rfl⟩
    cases hfault : m.fault? earlier with
    | some e =>
      rw [Member.scan_of_fault hfault, hchars]
      exact fails_of_fault hp hgathers hentry hmean hfault hc
    | none =>
      rw [Member.scan_of_no_fault hfault]
      obtain ⟨d', hadds, hgathers'⟩ := exists_adds hgathers hmean hfault
      obtain ⟨p', hp', hgoes⟩ := goes_entry hp hentry hadds
      cases hrest with
      | nil =>
        rw [List.map_singleton, row_singleton, Text.encode_append]
        exact (hp'.answers_close hgathers').after hgoes
      | @cons next _ more _ hnext hmore =>
        -- The row goes on, and the answer is that of the members after this one.
        have hcomma : Goes step .more p' (encode [',']) (.nextName d') :=
          .char (by decide) hp'.comma
        have hanswers := ih .nextName hgathers' (by simp) hothers
        have hwhole := (hanswers.after hcomma).after hgoes
        simpa only [List.map_cons, row_cons_cons, ← Text.encode_append, List.append_assoc,
          List.cons_append, List.nil_append] using hwhole

/-- An object is answered by what its members say. -/
theorem answers_object {body : List Char} (h : ObjectText body entries)
    (hmeans : List.Forall₂ Entry.Means entries members) :
    Answers .opening (encode body) (Member.scan [] members) := by
  have hopen : Goes step .more .opening (encode ['{']) .opened := .char (by decide) rfl
  cases h with
  | empty blanks hblanks =>
    cases hmeans
    have hwait : Goes step .more .opened (encode blanks) .opened :=
      (Expects.opened rfl).wait hblanks
    have hclose : Answers .opened (encode ['}']) (Member.scan [] []) :=
      .first rfl _
    have hwhole := (hclose.after hwait).after hopen
    rwa [← Text.encode_append, ← Text.encode_append] at hwhole
  | filled _ hsome hentries =>
    have hwhole := (answers_row (.opened rfl) gathers_nil hsome hentries hmeans).after hopen
    rwa [← Text.encode_append] at hwhole

end RecordPart

/-! ### Texts that hold an object -/

/-- What is made of a record is made of the text around it. -/
theorem decodeRecord_of_answers {before body after : List Char} {result : Except Error Employee}
    (h : RecordPart.Answers .opening (encode body) result) (hbefore : Blanks before)
    (hafter : Blanks after) : decodeRecord (encode (before ++ body ++ after)) = result := by
  cases result with
  | ok record => exact singleReader.run_eq_ok.mpr ⟨_, singleReader_goes hbefore h hafter, rfl⟩
  | error e =>
    have hread : Fails SingleState.step id (.reading .opening) (encode body) e :=
      h.lift SingleState.reading (fun _ _ _ => SingleState.step_reading_more)
        fun _ _ => SingleState.step_reading_error
    rw [Text.encode_append, Text.encode_append]
    exact singleReader.run_of_fails
      (((SingleState.goes_before hbefore).append_fails hread).append _)

/-- The members of an object are well-formed. -/
theorem ObjectText.wellFormed {body : List Char} {entries : List Entry}
    (h : ObjectText body entries) : ∀ entry ∈ entries, entry.WellFormed := by
  cases h with
  | empty => exact nofun
  | filled _ _ hentries => exact hentries

/-- Where a record is expected, an object is read as what its members say
from left to right. The first member with a fault decides: a field that
comes again, whatever its value, or a field whose value is no name. If
no member has one, what is missing decides. Members that are no field's
do not count. -/
theorem decodeRecord_of_object {text : String} {entries : List Entry}
    (htext : PaddedObject text.toList entries) :
    (∃ members, List.Forall₂ Entry.Means entries members) ∧
    ∀ members, List.Forall₂ Entry.Means entries members →
      decodeRecord (Text.utf8 text) = Member.scan [] members ∧
      decodeRecord (Text.utf8 text) = Member.scan [] (members.filter (·.field?.isSome)) := by
  obtain ⟨before, body, after, hsplit, hbefore, hobject, hafter⟩ := htext
  refine ⟨exists_means hobject.wellFormed, fun members hmeans => ?_⟩
  have hread : decodeRecord (Text.utf8 text) = Member.scan [] members := by
    rw [Text.utf8_eq_encode, hsplit]
    exact decodeRecord_of_answers (RecordPart.answers_object hobject hmeans) hbefore hafter
  have hfilter : Member.scan (List.filter (·.field?.isSome) [])
      (members.filter (·.field?.isSome)) = Member.scan [] members :=
    Member.scan_filter
  exact ⟨hread, hread.trans hfilter.symm⟩

-- The faults of members as they are told.
example : (Fault.duplicate .firstName).message = "duplicate field `firstName`" ∧
    (Fault.missing .lastName).message = "missing field `lastName`" ∧
    (Fault.mistyped .object .text).message = "invalid type: map, expected a string" := by
  decide +kernel

/-- Of three faults the first decides: the second `lastName` and the
missing `firstName` come too late. -/
theorem decodeRecord_first_of_three :
    let text := "\x7b\"age\":[],\"lastName\":null,\"lastName\":\"b\"\x7d"
    let entries := [bareEntry "age" ['[', ']'], bareEntry "lastName" Word.null.chars,
      bareEntry "lastName" (stringChars "b")]
    let members : List Member :=
      [⟨"age", .list⟩, ⟨"lastName", .word .null⟩, ⟨"lastName", .text "b"⟩]
    PaddedObject text.toList entries ∧ List.Forall₂ Entry.Means entries members ∧
      decodeRecord (Text.utf8 text) = .error (.invalid (.mistyped .null .text)) := by
  intro text entries members
  have hlist : Value ['[', ']'] := .empty .list [] .nil
  have htext : PaddedObject text.toList entries := by
    refine ⟨[], _, [], ?_, .nil, .filled entries (List.cons_ne_nil _ _) ?_, .nil⟩
    · decide +kernel
    · intro entry hentry
      simp only [entries, List.mem_cons, List.not_mem_nil, or_false] at hentry
      rcases hentry with rfl | rfl | rfl
      · exact wellFormed_bareEntry _ hlist
      · exact wellFormed_bareEntry _ (.word .null)
      · exact wellFormed_bareEntry _ (isText_stringChars "b").value
  have hmeans : List.Forall₂ Entry.Means entries members :=
    .cons ⟨rfl, .list _⟩ (.cons ⟨rfl, .word .null⟩
      (.cons ⟨rfl, .text (isText_stringChars "b")⟩ .nil))
  exact ⟨htext, hmeans, ((decodeRecord_of_object htext).2 members hmeans).1⟩

/-! ### Numbers that are refused although they are in range -/

/-- The size of a number, exactly. -/
def Numeral.magnitude (n : Numeral) : Rat :=
  let mantissa : Rat := ofDigits n.whole + ofDigits n.fraction / 10 ^ n.fraction.length
  let power : Rat := 10 ^ ofDigits n.exponent
  if n.exponentNegative then mantissa / power else mantissa * power

/-- The greatest double. -/
def greatestDouble : Rat :=
  (2 ^ 53 - 1) * 2 ^ 971

/-- A number below the greatest double is refused as malformed, and not
told, because its twenty digits are rounded up before they are
multiplied by `10 ^ 289`. -/
theorem refused_number_in_range :
    let text := "\x7b\"firstName\":1.7976931348623157081e308,\"lastName\":\"b\"\x7d"
    let entries := [bareEntry "firstName" "1.7976931348623157081e308".toList,
      bareEntry "lastName" (stringChars "b")]
    let number : Numeral := ⟨.exponent, false, [1],
      [1, 8, 0, 7, 5, 1, 3, 2, 6, 8, 4, 3, 1, 3, 9, 6, 7, 9, 7], false, [8, 0, 3], true⟩
    PaddedObject text.toList entries ∧
      List.Forall₂ Entry.Means entries [⟨"firstName", .number number⟩, ⟨"lastName", .text "b"⟩] ∧
      number.magnitude ≤ greatestDouble ∧
      decodeRecord (Text.utf8 text) = .error .malformed := by
  intro text entries number
  have hfraction : Digits "7976931348623157081".toList :=
    ⟨by decide, List.all_eq_true.mp (by decide)⟩
  have hexponent : Digits "308".toList := ⟨by decide, List.all_eq_true.mp (by decide)⟩
  have hnumber : Number "1.7976931348623157081e308".toList :=
    .mk [] ['1'] ('.' :: "7976931348623157081".toList) ('e' :: ([] ++ "308".toList)) (.inl rfl)
      (.more '1' [] rfl (by decide) nofun) (.some _ hfraction)
      (.some 'e' [] _ (.inl rfl) (.inl rfl) hexponent)
  have htext : PaddedObject text.toList entries := by
    refine ⟨[], _, [], ?_, .nil, .filled entries (List.cons_ne_nil _ _) ?_, .nil⟩
    · decide +kernel
    · intro entry hentry
      simp only [entries, List.mem_cons, List.not_mem_nil, or_false] at hentry
      rcases hentry with rfl | rfl
      · exact wellFormed_bareEntry _ (.number _ hnumber)
      · exact wellFormed_bareEntry _ (isText_stringChars "b").value
  have hmeans : List.Forall₂ Entry.Means entries
      [⟨"firstName", .number number⟩, ⟨"lastName", .text "b"⟩] :=
    .cons ⟨rfl, .number hnumber rfl⟩ (.cons ⟨rfl, .text (isText_stringChars "b")⟩ .nil)
  have hrange : number.magnitude ≤ greatestDouble := by
    decide +kernel
  -- Equality of answers cannot be decided, as a fault may hold a double.
  have hmalformed : (match decodeRecord (Text.utf8 text) with
      | .error .malformed => true
      | _ => false) = true := by
    decide +kernel
  refine ⟨htext, hmeans, hrange, ?_⟩
  split at hmalformed
  · assumption
  · cases hmalformed

end Roster.Json
