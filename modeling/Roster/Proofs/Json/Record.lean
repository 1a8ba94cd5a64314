import Roster.Json.RecordReader
import Roster.Proofs.Json.Members
import Roster.Proofs.Json.Skip
import Roster.Proofs.Json.TextToken

/-!
# `Roster.Proofs.Json.Record`: nothing but records is read

What the reader of a record has read is told by `RecordPart.Seen`: the
members so far and the draft that they lead to, or the names of the
array form, and the beginning of what comes next. `told_step` is the
step over an ASCII character. A character that is not ASCII can stand in
a string only (`seen_wide`).

The four places where a string is read have one treatment. A `Slot` is
such a place, and `Slot.Reached` says what was read before its opening
quote.
-/

set_option autoImplicit false

namespace Roster.Json

open Text (encode IsAscii IsWide)
open Employee (Field Draft)

namespace RecordPart

variable {b : UInt8} {c : Char} {d d' : Draft} {field : Option Field} {first last text : String}
  {record : Employee} {read value blanks : List Char} {p p' : RecordPart}
  {result : Progress RecordPart Employee}

/-! ### What was read of an object -/

/-- What has been read when a member may begin: the brace, and members
with a comma after each. -/
def Led (d : Draft) (read : List Char) : Prop :=
  ∃ front entries, Blanks front ∧ (∀ entry ∈ entries, entry.WellFormed) ∧
    Fills .empty entries d ∧ read = front ++ '{' :: led (entries.map Entry.chars)

/-- What has been read when a name is through. -/
inductive Named (d : Draft) (field : Option Field) (read : List Char) : Prop where
  | mk (front before body after : List Char) (name : String) (hled : Led d front)
      (hbefore : Blanks before) (hbody : Spelled body name.toList)
      (hfield : Field.ofName? name = field) (hnew : ∀ f, field = some f → d.get? f = none)
      (hafter : Blanks after) (hread : read = front ++ before ++ quoted body ++ after)

/-- What has been read when the value of a member may begin. -/
def Valued (d : Draft) (field : Option Field) (read : List Char) : Prop :=
  ∃ front blanks, Named d field front ∧ Blanks blanks ∧ read = front ++ ':' :: blanks

/-- What has been read when a member is through. -/
def Ended (d' : Draft) (read : List Char) : Prop :=
  ∃ d front entry, Led d front ∧ Entry.WellFormed entry ∧ Adds d entry d' ∧
    read = front ++ entry.chars

theorem led_opened (h : Blanks read) : Led .empty (read ++ ['{']) :=
  ⟨read, [], h, nofun, .nil _, rfl⟩

theorem Named.blank (h : Named d field read) (hc : IsBlank c) : Named d field (read ++ [c]) := by
  obtain ⟨front, before, body, after, name, hled, hbefore, hbody, hfield, hnew, hafter, rfl⟩ := h
  exact ⟨front, before, body, after ++ [c], name, hled, hbefore, hbody, hfield, hnew,
    hafter.snoc hc, by simp⟩

theorem Valued.wait (h : Valued d field read) (hblanks : Blanks blanks) :
    Valued d field (read ++ blanks) := by
  obtain ⟨front, before, hnamed, hbefore, rfl⟩ := h
  exact ⟨front, before ++ blanks, hnamed, hbefore.append hblanks, by simp⟩

/-- A value makes a member, which adds to the draft what its name and its
value say. -/
theorem Valued.ended (h : Valued d field read) (hvalue : Value value)
    (hadds : ∀ entry : Entry, Field.ofName? entry.name = field → entry.value = value →
      (∀ f, field = some f → d.get? f = none) → Adds d entry d') : Ended d' (read ++ value) := by
  obtain ⟨_, lead, ⟨front, before, body, after, name, hled, hbefore, hbody, hfield, hnew, hafter,
    rfl⟩, hlead, rfl⟩ := h
  exact ⟨d, front, ⟨name, before, body, after, lead, value, []⟩, hled,
    ⟨hbefore, hbody, hafter, hlead, hvalue, .nil⟩, hadds _ hfield rfl hnew,
    by simp [Entry.chars, Entry.opening]⟩

/-- A member that is no field's adds nothing. -/
theorem Valued.ended_other (h : Valued d none read) (hvalue : Value value) :
    Ended d (read ++ value) :=
  h.ended hvalue fun _ hname _ _ => .other hname

/-- A field's member adds its text. -/
theorem Valued.ended_field {field : Field} (h : Valued d (some field) read)
    (htext : IsText value text) : Ended (d.set field text) (read ++ value) := by
  refine h.ended htext.value fun entry hname hvalue hnew => ?_
  exact .field field text hname (hnew field rfl) (hvalue ▸ htext)

theorem Ended.blank (h : Ended d read) (hc : IsBlank c) : Ended d (read ++ [c]) := by
  obtain ⟨d₀, front, entry, hled, hentry, hadds, rfl⟩ := h
  refine ⟨d₀, front, { entry with afterValue := entry.afterValue ++ [c] }, hled,
    { hentry with afterValue := hentry.afterValue.snoc hc }, ?_, ?_⟩
  · cases hadds with
    | other hname => exact .other hname
    | field field text hname hnew htext => exact .field field text hname hnew htext
  · simp [Entry.chars, Entry.opening]

/-- A comma leads to the next member. -/
theorem Ended.comma (h : Ended d read) : Led d (read ++ [',']) := by
  obtain ⟨d₀, _, entry, ⟨front, entries, hfront, hentries, hfills, rfl⟩, hentry, hadds, rfl⟩ := h
  refine ⟨front, entries ++ [entry], hfront, ?_, hfills.snoc hadds, by simp [led_snoc]⟩
  exact List.forall_mem_append.mpr ⟨hentries, by simpa using hentry⟩

/-- What has been read when a record is through. -/
def Passed (record : Employee) (read : List Char) : Prop :=
  ∃ blanks body, Blanks blanks ∧ RecordText body record ∧ read = blanks ++ body

/-- The closing brace makes a record of a complete draft. -/
theorem Ended.close (h : Ended d read) (hcomplete : d.complete = .ok record) :
    Passed record (read ++ ['}']) := by
  obtain ⟨d₀, _, entry, ⟨front, entries, hfront, hentries, hfills, rfl⟩, hentry, hadds, rfl⟩ := h
  have hboth := fills_complete_iff.mp ⟨d, hfills.snoc hadds, hcomplete⟩
  refine ⟨front, _, hfront, .object (entries ++ [entry]) record ?_ hboth.1 hboth.2, ?_⟩
  · exact List.forall_mem_append.mpr ⟨hentries, by simpa using hentry⟩
  · simp [row_snoc]

/-! ### What was read of the array form -/

/-- What has been read when the first name may begin. -/
def FirstSlot (read : List Char) : Prop :=
  ∃ front blanks, Blanks front ∧ Blanks blanks ∧ read = front ++ '[' :: blanks

/-- What has been read when the first name is through. -/
def First (first : String) (read : List Char) : Prop :=
  ∃ front value blanks, FirstSlot front ∧ IsText value first ∧ Blanks blanks ∧
    read = front ++ value ++ blanks

/-- What has been read when the second name may begin. -/
def SecondSlot (first : String) (read : List Char) : Prop :=
  ∃ front blanks, First first front ∧ Blanks blanks ∧ read = front ++ ',' :: blanks

/-- What has been read when both names are through. -/
def Both (first last : String) (read : List Char) : Prop :=
  ∃ front value blanks, SecondSlot first front ∧ IsText value last ∧ Blanks blanks ∧
    read = front ++ value ++ blanks

/-- The closing bracket makes a record of the two names. -/
theorem Both.close (h : Both first last read) : Passed ⟨first, last⟩ (read ++ [']']) := by
  obtain ⟨_, value₂, d, ⟨_, c, ⟨_, value₁, b, ⟨front, a, hfront, ha, rfl⟩, hfirst, hb, rfl⟩, hc,
    rfl⟩, hlast, hd, rfl⟩ := h
  exact ⟨front, _, hfront, .list a value₁ b c value₂ d ⟨first, last⟩ ha hfirst hb hc hlast hd,
    by simp [row_cons_cons, row_singleton]⟩

/-! ### What was read of a record -/

/-- A place in a record where a string is read. -/
inductive Slot where
  | name (d : Draft)
  | value (d : Draft) (field : Field)
  | first
  | second (first : String)

/-- The record while a string is read. -/
def Slot.part : Slot → TextToken → RecordPart
  | .name d => .name d
  | .value d field => .text d field
  | .first => .firstText
  | .second first => .secondText first

/-- What has been read when a string may begin. -/
def Slot.Reached : Slot → List Char → Prop
  | .name d, read => ∃ front blanks, Led d front ∧ Blanks blanks ∧ read = front ++ blanks
  | .value d field, read => Valued d (some field) read
  | .first, read => FirstSlot read
  | .second first, read => SecondSlot first read

/-- What has been read of a record. -/
inductive Seen : RecordPart → List Char → Prop where
  | opening {read : List Char} (h : Blanks read) : Seen .opening read
  | opened {read : List Char} (h : Slot.Reached (.name .empty) read) : Seen .opened read
  | nextName {d : Draft} {read : List Char} (h : Slot.Reached (.name d) read) :
      Seen (.nextName d) read
  | token (slot : Slot) {read front body : List Char} {token : TextToken}
      (hreached : slot.Reached front)
      (htoken : Goes TextToken.step .more .start (encode body) token)
      (hread : read = front ++ '"' :: body) : Seen (slot.part token) read
  | colon {d : Draft} {field : Option Field} {read : List Char} (h : Named d field read) :
      Seen (.colon d field) read
  | value {d : Draft} {field : Field} {read : List Char} (h : Valued d (some field) read) :
      Seen (.value d field) read
  | skipped {d : Draft} {skip : Skip} {read front rest : List Char}
      (hvalued : Valued d none front) (hskip : skip.Seen rest) (hread : read = front ++ rest) :
      Seen (.skipped d skip) read
  | ended {d : Draft} {read : List Char} (h : Ended d read) : Seen (.ended d) read
  | firstSlot {read : List Char} (h : FirstSlot read) : Seen .firstSlot read
  | afterFirst {first : String} {read : List Char} (h : First first read) :
      Seen (.afterFirst first) read
  | secondSlot {first : String} {read : List Char} (h : SecondSlot first read) :
      Seen (.secondSlot first) read
  | afterSecond {first last : String} {read : List Char} (h : Both first last read) :
      Seen (.afterSecond first last) read
  | mistyped (m : Mistyped) (read : List Char) : Seen (.mistyped m) read

/-- What has been read when a byte was answered. -/
def Told (read : List Char) : Progress RecordPart Employee → Prop
  | .more part => part.Seen read
  | .done record => Passed record read

/-- A value of the wrong type is not told. -/
theorem told_wrong {expected : Expected} (h : wrong expected b = .ok result) :
    Told read result := by
  obtain ⟨m, _, rfl⟩ := answer_of_map h
  exact .mistyped m read

/-- A value of the wrong type stays one. -/
theorem step_mistyped {m : Mistyped} (h : (mistyped m).step b = .ok result) :
    ∃ m', result = .more (.mistyped m') := by
  obtain ⟨m', _, rfl⟩ := answer_of_map h
  exact ⟨m', rfl⟩

/-- The opening quote of a string. -/
theorem seen_quote (slot : Slot) (h : slot.Reached read) :
    (slot.part .start).Seen (read ++ ['"']) :=
  have hnone : Goes TextToken.step .more .start (encode []) .start := .nil _
  .token slot h hnone (by simp)

/-- The first byte of a name. -/
theorem told_openName (h : Slot.Reached (.name d) read) (hascii : IsAscii c)
    (hstep : openName d (byte c) = .ok result) : Told (read ++ [c]) result := by
  unfold openName at hstep
  split at hstep
  · rename_i hquote
    cases hstep
    obtain rfl := Text.byte_inj hascii (by decide) hquote
    exact seen_quote (.name d) h
  · cases hstep

/-- A byte after a member. -/
theorem told_afterMember (h : Ended d read) (hascii : IsAscii c)
    (hstep : afterMember d (byte c) = .ok result) : Told (read ++ [c]) result := by
  unfold afterMember at hstep
  split at hstep
  · rename_i hc
    cases hstep
    exact .ended (h.blank (isBlank_of_byte hascii hc))
  · split at hstep
    · rename_i hcomma
      cases hstep
      obtain rfl := Text.byte_inj hascii (by decide) hcomma
      exact .nextName ⟨_, [], h.comma, .nil, (List.append_nil _).symm⟩
    · split at hstep
      · rename_i hclose
        obtain rfl := Text.byte_inj hascii (by decide) hclose
        unfold close at hstep
        split at hstep
        · rename_i hcomplete
          cases hstep
          exact h.close hcomplete
        · cases hstep
      · cases hstep

/-- A string is read where one stands. -/
theorem step_part_more {token token' : TextToken} (slot : Slot)
    (h : token.step b = .ok (.more token')) :
    (slot.part token).step b = .ok (.more (slot.part token')) := by
  cases slot <;> simp only [Slot.part, step, h, goOn]

/-- A string that is malformed is so where it stands. -/
theorem step_part_error {token : TextToken} {e : Error} (slot : Slot)
    (h : token.step b = .error e) : (slot.part token).step b = .error e := by
  cases slot <;> simp only [Slot.part, step, h]

/-- The closing quote of a string. -/
theorem told_quote {token : TextToken} (slot : Slot) (h : slot.Reached read)
    (hvalue : IsText value text) (hdone : token.step b = .ok (.done text))
    (hstep : (slot.part token).step b = .ok result) : Told (read ++ value) result := by
  cases slot with
  | name d =>
    simp only [Slot.part, step, hdone] at hstep
    obtain ⟨front, before, hled, hbefore, rfl⟩ := h
    obtain ⟨body, rfl, hbody⟩ := hvalue
    have hnamed : ∀ field, Field.ofName? text = field → (∀ f, field = some f → d.get? f = none) →
        Named d field (front ++ before ++ quoted body) := fun field hfield hnew =>
      ⟨front, before, body, [], text, hled, hbefore, hbody, hfield, hnew, .nil, by simp⟩
    unfold closeName at hstep
    split at hstep
    · rename_i hother
      cases hstep
      exact .colon (hnamed none hother nofun)
    · rename_i field hfield
      split at hstep
      · -- A field that comes twice is refused at its second name.
        cases hstep
      · rename_i hnew
        cases hstep
        refine .colon (hnamed (some field) hfield ?_)
        rintro _ ⟨⟩
        simpa using hnew
  | value d field =>
    simp only [Slot.part, step, hdone] at hstep
    cases hstep
    exact .ended (Valued.ended_field h hvalue)
  | first =>
    simp only [Slot.part, step, hdone] at hstep
    cases hstep
    exact .afterFirst ⟨read, value, [], h, hvalue, .nil, by simp⟩
  | second first =>
    simp only [Slot.part, step, hdone] at hstep
    cases hstep
    exact .afterSecond ⟨read, value, [], h, hvalue, .nil, by simp⟩

/-- What has been read of a record, one ASCII character on. -/
theorem told_step (h : p.Seen read) (hascii : IsAscii c)
    (hstep : p.step (byte c) = .ok result) : Told (read ++ [c]) result := by
  have hblank : Json.isBlank (byte c) = true → IsBlank c := isBlank_of_byte hascii
  have hbyte : ∀ {d : Char}, IsAscii d → byte c = byte d → c = d := fun hd =>
    Text.byte_inj hascii hd
  cases h with
  | opening hblanks =>
    simp only [step] at hstep
    split at hstep
    · rename_i hc
      cases hstep
      exact .opening (hblanks.snoc (hblank hc))
    · unfold openRecord at hstep
      split at hstep
      · rename_i hopen
        cases hstep
        obtain rfl := hbyte (by decide) hopen
        exact .opened ⟨_, [], led_opened hblanks, .nil, (List.append_nil _).symm⟩
      · split at hstep
        · rename_i hopen
          cases hstep
          obtain rfl := hbyte (by decide) hopen
          exact .firstSlot ⟨read, [], hblanks, .nil, rfl⟩
        · exact told_wrong hstep
  | opened hreached =>
    simp only [step] at hstep
    split at hstep
    · rename_i hc
      cases hstep
      obtain ⟨front, blanks, hled, hblanks, rfl⟩ := hreached
      exact .opened ⟨front, blanks ++ [c], hled, hblanks.snoc (hblank hc), by simp⟩
    · split at hstep
      · -- An object that closes at once lacks both fields.
        cases hstep
      · exact told_openName hreached hascii hstep
  | nextName hreached =>
    simp only [step] at hstep
    split at hstep
    · rename_i hc
      cases hstep
      obtain ⟨front, blanks, hled, hblanks, rfl⟩ := hreached
      exact .nextName ⟨front, blanks ++ [c], hled, hblanks.snoc (hblank hc), by simp⟩
    · exact told_openName hreached hascii hstep
  | @token slot _ front body token hreached htoken hread =>
    cases hpart : token.step (byte c) with
    | error e => exact nomatch (step_part_error slot hpart).symm.trans hstep
    | ok progress =>
      cases progress with
      | more token' =>
        cases (step_part_more slot hpart).symm.trans hstep
        have htoken' : Goes TextToken.step .more .start (encode (body ++ [c])) token' := by
          rw [Text.encode_append]
          exact htoken.append (.char hascii hpart)
        exact .token slot hreached htoken' (by simp [hread])
      | done text =>
        obtain ⟨rfl, hbody⟩ := (TextToken.closes_iff hascii).mp ⟨token, htoken, hpart⟩
        have hvalue : IsText (quoted body) text := ⟨body, rfl, hbody⟩
        have htold := told_quote slot hreached hvalue hpart hstep
        simpa [hread, quoted] using htold
  | @colon d field _ hnamed =>
    simp only [step] at hstep
    split at hstep
    · rename_i hc
      cases hstep
      exact .colon (hnamed.blank (hblank hc))
    · split at hstep
      · rename_i hcolon
        obtain rfl := hbyte (by decide) hcolon
        have hvalued : Valued d field (read ++ [':']) := ⟨read, [], hnamed, .nil, rfl⟩
        cases field with
        | none =>
          cases hstep
          exact .skipped hvalued (.value .nil) (List.append_nil _).symm
        | some field =>
          cases hstep
          exact .value hvalued
      · cases hstep
  | @value d field _ hvalued =>
    simp only [step] at hstep
    split at hstep
    · rename_i hc
      cases hstep
      exact .value (hvalued.wait (.snoc .nil (hblank hc)))
    · split at hstep
      · rename_i hquote
        cases hstep
        obtain rfl := hbyte (by decide) hquote
        exact seen_quote (.value d field) hvalued
      · exact told_wrong hstep
  | @skipped d skip _ front rest hvalued hskip hread =>
    -- What is passed over begins with the blanks before the value.
    have hended : ∀ {rest}, Skip.Passed rest → Ended d (front ++ rest) := by
      rintro _ ⟨blanks, value, hblanks, hvalue, rfl⟩
      rw [← List.append_assoc]
      exact (hvalued.wait hblanks).ended_other hvalue
    simp only [step] at hstep
    split at hstep
    · rename_i skip' hmore
      cases hstep
      exact .skipped hvalued (Skip.told_step hskip hascii hmore) (by simp [hread])
    · rename_i hdone
      cases hstep
      have hended := hended (Skip.told_step hskip hascii hdone)
      exact .ended (by simpa [hread] using hended)
    · -- A number ended before the byte, which so comes after the member.
      rename_i hbefore
      have hended := hended (Skip.told_step hskip hascii hbefore)
      exact told_afterMember (hread ▸ hended) hascii hstep
    · cases hstep
  | ended hended => exact told_afterMember hended hascii hstep
  | firstSlot hslot =>
    simp only [step] at hstep
    split at hstep
    · rename_i hc
      cases hstep
      obtain ⟨front, blanks, hfront, hblanks, rfl⟩ := hslot
      exact .firstSlot ⟨front, blanks ++ [c], hfront, hblanks.snoc (hblank hc), by simp⟩
    · split at hstep
      · rename_i hquote
        cases hstep
        obtain rfl := hbyte (by decide) hquote
        exact seen_quote .first hslot
      · split at hstep
        · cases hstep
        · exact told_wrong hstep
  | @afterFirst first _ hfirst =>
    simp only [step] at hstep
    split at hstep
    · rename_i hc
      cases hstep
      obtain ⟨front, value, blanks, hslot, hvalue, hblanks, rfl⟩ := hfirst
      exact .afterFirst ⟨front, value, blanks ++ [c], hslot, hvalue, hblanks.snoc (hblank hc),
        by simp⟩
    · split at hstep
      · rename_i hcomma
        cases hstep
        obtain rfl := hbyte (by decide) hcomma
        exact .secondSlot ⟨read, [], hfirst, .nil, rfl⟩
      · split at hstep <;> cases hstep
  | @secondSlot first _ hslot =>
    simp only [step] at hstep
    split at hstep
    · rename_i hc
      cases hstep
      obtain ⟨front, blanks, hfirst, hblanks, rfl⟩ := hslot
      exact .secondSlot ⟨front, blanks ++ [c], hfirst, hblanks.snoc (hblank hc), by simp⟩
    · split at hstep
      · rename_i hquote
        cases hstep
        obtain rfl := hbyte (by decide) hquote
        exact seen_quote (.second first) hslot
      · exact told_wrong hstep
  | @afterSecond first last _ hboth =>
    simp only [step] at hstep
    split at hstep
    · rename_i hc
      cases hstep
      obtain ⟨front, value, blanks, hslot, hvalue, hblanks, rfl⟩ := hboth
      exact .afterSecond ⟨front, value, blanks ++ [c], hslot, hvalue, hblanks.snoc (hblank hc),
        by simp⟩
    · split at hstep
      · rename_i hclose
        cases hstep
        obtain rfl := hbyte (by decide) hclose
        exact hboth.close
      · cases hstep
  | mistyped m read =>
    obtain ⟨m', rfl⟩ := step_mistyped hstep
    exact .mistyped m' _

/-! ### Wide bytes -/

/-- No value of the wrong type begins with a wide byte. -/
theorem start_wide (h : IsWide b) (expected : Expected) :
    Mistyped.start expected b = .error .malformed := by
  have hclass := unclassed_of_wide h
  have hne : ∀ d, IsAscii d → ¬ b = byte d := hclass.ascii
  simp only [Mistyped.start, hclass.word, hclass.number, if_neg (hne '"' (by decide)),
    if_neg (hne '[' (by decide)), if_neg (hne '{' (by decide))]

theorem wrong_wide (h : IsWide b) (expected : Expected) :
    wrong expected b = .error .malformed := by
  rw [wrong, start_wide h]
  rfl

/-- No name begins with a wide byte. -/
theorem openName_wide (h : IsWide b) (d : Draft) : openName d b = .error .malformed :=
  if_neg ((unclassed_of_wide h).ascii _ (by decide))

/-- No wide byte comes after a member. -/
theorem afterMember_wide (h : IsWide b) (d : Draft) : afterMember d b = .error .malformed := by
  have hclass := unclassed_of_wide h
  have hne : ∀ d, IsAscii d → ¬ b = byte d := hclass.ascii
  simp only [afterMember, hclass.blank, if_neg (hne ',' (by decide)), if_neg (hne '}' (by decide)),
    Bool.false_eq_true, if_false]

/-- A wide byte in a string is the string's. -/
theorem step_part_wide (slot : Slot) {token : TextToken} (h : IsWide b)
    (hstep : (slot.part token).step b = .ok result) :
    ∃ token', result = .more (slot.part token') ∧ token.step b = .ok (.more token') := by
  cases hpart : token.step b with
  | error e => exact nomatch (step_part_error slot hpart).symm.trans hstep
  | ok progress =>
    obtain ⟨token', rfl⟩ : ∃ token', progress = .more token' := by
      rcases TextToken.step_wide h hpart with ⟨_, rfl⟩ | ⟨_, _, _, _, rfl⟩ <;> exact ⟨_, rfl⟩
    cases (step_part_more slot hpart).symm.trans hstep
    exact ⟨token', rfl, rfl⟩

/-- A wide byte in a value that is passed over is the value's. -/
theorem step_skipped_wide {skip : Skip} (h : IsWide b) (hnarrow : skip.Narrow)
    (hstep : (skipped d skip).step b = .ok result) :
    ∃ skip', result = .more (.skipped d skip') ∧ skip.step b = .ok (.more skip') ∧
      skip'.Narrow := by
  simp only [step] at hstep
  cases hpart : skip.step b with
  | error e =>
    rw [hpart] at hstep
    cases hstep
  | ok progress =>
    rw [hpart] at hstep
    rcases Skip.step_wide h hnarrow hpart with ⟨inside, _, text', hinside, _, _, rfl⟩ | rfl
    · cases hstep
      exact ⟨_, rfl, rfl, hinside.narrow text'⟩
    · exact nomatch (afterMember_wide h d).symm.trans hstep

/-- A value of the wrong type stays one over all that follows. -/
theorem goes_mistyped {m : Mistyped} {read : List UInt8}
    (h : Goes step .more (.mistyped m) read p') : ∃ m', p' = .mistyped m' := by
  induction read generalizing m with
  | nil =>
    cases h
    exact ⟨m, rfl⟩
  | cons b rest ih =>
    cases h with
    | cons hstep hrest =>
      obtain ⟨m', heq⟩ := step_mistyped hstep
      cases heq
      exact ih hrest

/-- Neither a string nor a value is being read. -/
def Bare : RecordPart → Prop
  | .name .. | .text .. | .firstText .. | .secondText .. | .skipped .. | .mistyped .. => False
  | _ => True

/-- Between strings and values there is no wide byte. -/
theorem step_bare_wide (h : IsWide b) (hbare : p.Bare) : p.step b = .error .malformed := by
  have hclass := unclassed_of_wide h
  have hne : ∀ d, IsAscii d → ¬ b = byte d := hclass.ascii
  cases p with
  | name | text | firstText | secondText | skipped | mistyped => exact hbare.elim
  | ended d => exact afterMember_wide h d
  | opening =>
    simp only [step, hclass.blank, openRecord, if_neg (hne '{' (by decide)),
      if_neg (hne '[' (by decide)), wrong_wide h, Bool.false_eq_true, if_false]
  | opened =>
    simp only [step, hclass.blank, if_neg (hne '}' (by decide)), openName_wide h,
      Bool.false_eq_true, if_false]
  | nextName => simp only [step, hclass.blank, openName_wide h, Bool.false_eq_true, if_false]
  | colon =>
    simp only [step, hclass.blank, if_neg (hne ':' (by decide)), Bool.false_eq_true, if_false]
  | value | secondSlot =>
    simp only [step, hclass.blank, if_neg (hne '"' (by decide)), wrong_wide h,
      Bool.false_eq_true, if_false]
  | firstSlot =>
    simp only [step, hclass.blank, if_neg (hne '"' (by decide)), if_neg (hne ']' (by decide)),
      wrong_wide h, Bool.false_eq_true, if_false]
  | afterFirst =>
    simp only [step, hclass.blank, if_neg (hne ',' (by decide)), if_neg (hne ']' (by decide)),
      Bool.false_eq_true, if_false]
  | afterSecond =>
    simp only [step, hclass.blank, if_neg (hne ']' (by decide)), Bool.false_eq_true, if_false]

/-- What has been read of a record, after a character that is not
ASCII. -/
theorem seen_wide (h : p.Seen read) (hwide : ∀ b ∈ encode [c], IsWide b) (hsome : encode [c] ≠ [])
    (hgoes : Goes step .more p (encode [c]) p') : p'.Seen (read ++ [c]) := by
  have hbare : ¬ p.Bare := by
    intro hbare
    obtain ⟨b, middle, hb, hstep⟩ := hgoes.first_wide hwide hsome
    exact nomatch (step_bare_wide hb hbare).symm.trans hstep
  cases h with
  | @token slot _ front body token hreached htoken hread =>
    have hinside : ∀ token b p', True → IsWide b → (slot.part token).step b = .ok (.more p') →
        ∃ token', p' = slot.part token' ∧ token.step b = .ok (.more token') ∧ True := by
      intro token b p' _ hb hstep
      obtain ⟨token', heq, hpart⟩ := step_part_wide slot hb hstep
      cases heq
      exact ⟨token', rfl, hpart, trivial⟩
    obtain ⟨token', rfl, hmore⟩ := hgoes.unlift slot.part _ IsWide hinside trivial hwide
    have htoken' : Goes TextToken.step .more .start (encode (body ++ [c])) token' := by
      rw [Text.encode_append]
      exact htoken.append hmore
    exact .token slot hreached htoken' (by simp [hread])
  | @skipped d skip _ front rest hvalued hskip hread =>
    have hinside : ∀ skip b p', skip.Narrow → IsWide b → (skipped d skip).step b = .ok (.more p') →
        ∃ skip', p' = skipped d skip' ∧ skip.step b = .ok (.more skip') ∧ skip'.Narrow := by
      intro skip b p' hnarrow hb hstep
      obtain ⟨skip', heq, hpart⟩ := step_skipped_wide hb hnarrow hstep
      cases heq
      exact ⟨skip', rfl, hpart⟩
    obtain ⟨skip', rfl, hmore⟩ :=
      hgoes.unlift (skipped d) Skip.Narrow IsWide hinside hskip.narrow hwide
    exact .skipped hvalued (Skip.seen_wide hskip hwide hsome hmore) (by simp [hread])
  | mistyped m =>
    obtain ⟨m', rfl⟩ := goes_mistyped hgoes
    exact .mistyped m' _
  | _ => exact absurd trivial hbare

/-- No letter is wide that is still to come of a value that is passed
over. -/
def Narrow : RecordPart → Prop
  | .skipped _ skip => skip.Narrow
  | _ => True

theorem Seen.narrow (h : p.Seen read) : p.Narrow := by
  cases h with
  | skipped _ hskip => exact hskip.narrow
  | token slot => cases slot <;> trivial
  | _ => trivial

/-- A record is not through with a wide byte. -/
theorem step_wide (h : IsWide b) (hnarrow : p.Narrow) (hstep : p.step b = .ok result) :
    ∃ p', result = .more p' ∧ p'.Narrow := by
  have hbare : ¬ p.Bare := fun hbare => nomatch (step_bare_wide h hbare).symm.trans hstep
  have hslot : ∀ (slot : Slot) (token : TextToken), p = slot.part token →
      ∃ p', result = .more p' ∧ p'.Narrow := by
    rintro slot token rfl
    obtain ⟨token', rfl, _⟩ := step_part_wide slot h hstep
    exact ⟨_, rfl, by cases slot <;> trivial⟩
  cases p with
  | name d token => exact hslot (.name d) token rfl
  | text d field token => exact hslot (.value d field) token rfl
  | firstText token => exact hslot .first token rfl
  | secondText first token => exact hslot (.second first) token rfl
  | skipped d skip =>
    obtain ⟨skip', rfl, _, hnarrow'⟩ := step_skipped_wide h hnarrow hstep
    exact ⟨_, rfl, hnarrow'⟩
  | mistyped m =>
    obtain ⟨m', rfl⟩ := step_mistyped hstep
    exact ⟨_, rfl, trivial⟩
  | _ => exact absurd trivial hbare

end RecordPart

end Roster.Json
