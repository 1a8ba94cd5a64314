import Roster.Proofs.Json.Number
import Roster.Proofs.Json.SkippedText

/-!
# `Roster.Proofs.Json.Skip`: nothing but values is passed over

What the reader of a value that is passed over has read is told by
`Skip.Seen`. The brackets that are open say where each of them was
opened and which elements were read since (`Skip.Inside`), so that a
closing bracket makes a value of all that was read since it was opened.

`told_step` is the step over an ASCII character. A character that is not
ASCII can stand in a string only (`seen_wide`).
-/

set_option autoImplicit false

namespace Roster.Json

open Text (encode IsAscii IsWide)

/-! ### Brackets and words -/

theorem Bracket.isAscii_left (b : Bracket) : IsAscii b.left := by
  cases b <;> decide

theorem Bracket.isAscii_right (b : Bracket) : IsAscii b.right := by
  cases b <;> decide

theorem Bracket.closing_eq (b : Bracket) : b.closing = byte b.right := by
  cases b <;> rfl

/-- The letters of a word are ASCII. -/
theorem Word.isAscii (word : Word) : ∀ c ∈ word.chars, IsAscii c := by
  have hall : word.chars.all (fun c => decide (IsAscii c)) = true := by cases word <;> rfl
  exact fun c hc => of_decide_eq_true (List.all_eq_true.mp hall c hc)

/-- The first letter tells a word. -/
theorem Word.chars_of_first {c : Char} (hascii : IsAscii c) {word : Word}
    (h : Word.ofFirst? (byte c) = some word) :
    ∃ tail, word.chars = [c] ++ tail ∧ word.rest = encode tail := by
  have hbyte : ∀ {d : Char}, IsAscii d → byte c = byte d → c = d := fun hd =>
    Text.byte_inj hascii hd
  unfold ofFirst? at h
  split at h
  · rename_i hfirst
    cases h
    obtain rfl := hbyte (by decide) hfirst
    exact ⟨['u', 'l', 'l'], rfl, rfl⟩
  · split at h
    · rename_i hfirst
      cases h
      obtain rfl := hbyte (by decide) hfirst
      exact ⟨['r', 'u', 'e'], rfl, rfl⟩
    · split at h
      · rename_i hfirst
        cases h
        obtain rfl := hbyte (by decide) hfirst
        exact ⟨['a', 'l', 's', 'e'], rfl, rfl⟩
      · cases h

/-- The letters of a word come in their order. -/
theorem Word.step_cases {tail : List Char} (htail : ∀ d ∈ tail, IsAscii d) {c : Char}
    (hascii : IsAscii c) {result : Progress (List UInt8) Unit}
    (h : Word.step (encode tail) (byte c) = .ok result) :
    (tail = [c] ∧ result = .done ()) ∨
      ∃ rest, tail = c :: rest ∧ result = .more (encode rest) := by
  rw [Text.encode_of_ascii htail] at h
  cases tail with
  | nil => cases h
  | cons d rest =>
    obtain ⟨hd, hrest⟩ := List.forall_mem_cons.mp htail
    cases rest with
    | nil =>
      simp only [List.map_cons, List.map_nil, step] at h
      split at h
      · rename_i heq
        cases h
        exact .inl ⟨by rw [Text.byte_inj hascii hd heq], rfl⟩
      · cases h
    | cons e rest =>
      simp only [List.map_cons, step] at h
      split at h
      · rename_i heq
        cases h
        refine .inr ⟨e :: rest, by rw [Text.byte_inj hascii hd heq], ?_⟩
        rw [Text.encode_of_ascii hrest, List.map_cons]
      · cases h

namespace Skip

variable {b : UInt8} {c : Char} {brackets outer : List Bracket} {bracket : Bracket}
  {read value blanks : List Char} {s s' : Skip} {result : SkipStep}

/-! ### What was read of a value -/

/-- What stands before the value of an element. -/
def Leads : Bracket → List Char → Prop
  | .list, read => Blanks read
  | .object, read => ∃ before name after lead, Blanks before ∧ Body name ∧ Blanks after ∧
      Blanks lead ∧ read = before ++ quoted name ++ after ++ ':' :: lead

/-- What has been read when an element may begin: what stands before the
bracket, the bracket, and elements with a comma after each. -/
def Among (before : List Char → Prop) (bracket : Bracket) (read : List Char) : Prop :=
  ∃ front elements, before front ∧
    (∀ element ∈ elements, Derives (.element bracket) element) ∧
    read = front ++ bracket.left :: led elements

/-- What has been read when a value may begin. -/
def Inside : List Bracket → List Char → Prop
  | [], read => Blanks read
  | bracket :: outer, read => ∃ front last, Among (Inside outer) bracket front ∧
      Leads bracket last ∧ read = front ++ last

/-- What has been read when a value is through. -/
def Passed (read : List Char) : Prop :=
  ∃ blanks value, Blanks blanks ∧ Value value ∧ read = blanks ++ value

/-- What has been read of a value that is passed over. -/
inductive Seen : Skip → List Char → Prop where
  | value {brackets : List Bracket} {read : List Char} (hin : Inside brackets read) :
      Seen ⟨brackets, .value⟩ read
  | opened {bracket : Bracket} {outer : List Bracket} {read front blanks : List Char}
      (hin : Inside outer front) (hblanks : Blanks blanks)
      (hread : read = front ++ bracket.left :: blanks) : Seen ⟨bracket :: outer, .opened⟩ read
  | name {outer : List Bracket} {read front blanks : List Char}
      (hamong : Among (Inside outer) .object front) (hblanks : Blanks blanks)
      (hread : read = front ++ blanks) : Seen ⟨.object :: outer, .name⟩ read
  | nameText {outer : List Bracket} {read front blanks body : List Char} {text : SkippedText}
      (hamong : Among (Inside outer) .object front) (hblanks : Blanks blanks)
      (htext : Goes SkippedText.step .more .plain (encode body) text)
      (hread : read = front ++ blanks ++ '"' :: body) : Seen ⟨.object :: outer, .nameText text⟩ read
  | colon {outer : List Bracket} {read front blanks name after : List Char}
      (hamong : Among (Inside outer) .object front) (hblanks : Blanks blanks)
      (hname : Body name) (hafter : Blanks after)
      (hread : read = front ++ blanks ++ quoted name ++ after) :
      Seen ⟨.object :: outer, .colon⟩ read
  | word {brackets : List Bracket} {read front done tail : List Char} {word : Word}
      (hin : Inside brackets front) (hword : word.chars = done ++ tail)
      (hread : read = front ++ done) : Seen ⟨brackets, .word (encode tail)⟩ read
  | number {brackets : List Bracket} {read front n : List Char} {part : NumberPart}
      (hin : Inside brackets front) (hspells : Spells part n) (hread : read = front ++ n) :
      Seen ⟨brackets, .number part⟩ read
  | text {brackets : List Bracket} {read front body : List Char} {text : SkippedText}
      (hin : Inside brackets front)
      (htext : Goes SkippedText.step .more .plain (encode body) text)
      (hread : read = front ++ '"' :: body) : Seen ⟨brackets, .text text⟩ read
  | ended {bracket : Bracket} {outer : List Bracket} {read front value blanks : List Char}
      (hin : Inside (bracket :: outer) front) (hvalue : Value value) (hblanks : Blanks blanks)
      (hread : read = front ++ value ++ blanks) : Seen ⟨bracket :: outer, .ended⟩ read

/-- What has been read when a byte was answered. -/
def Told (read : List Char) (c : Char) : SkipStep → Prop
  | .more s => s.Seen (read ++ [c])
  | .done => Passed (read ++ [c])
  | .before => Passed read

/-- A value and what stands before it make an element. -/
theorem Leads.element {lead trail : List Char} (h : Leads bracket lead) (hvalue : Value value)
    (htrail : Blanks trail) : Derives (.element bracket) (lead ++ value ++ trail) := by
  cases bracket with
  | list => exact .item lead value trail h hvalue htrail
  | object =>
    obtain ⟨before, name, after, blanks, hbefore, hname, hafter, hblanks, rfl⟩ := h
    exact .member before name after blanks value trail hbefore hname hafter hblanks hvalue htrail

/-- Elements may go on with one more and a comma. -/
theorem Among.snoc {before : List Char → Prop} {front element : List Char}
    (h : Among before bracket front) (helement : Derives (.element bracket) element) :
    Among before bracket (front ++ element ++ [',']) := by
  obtain ⟨front, elements, hfront, helements, rfl⟩ := h
  refine ⟨front, elements ++ [element], hfront, fun e he => ?_, by simp [led_snoc]⟩
  rcases List.mem_append.mp he with he | he
  · exact helements e he
  · rw [List.mem_singleton.mp he]
    exact helement

/-- Elements after which the bracket closes are a value. -/
theorem Among.close {before : List Char → Prop} {front element : List Char}
    (h : Among before bracket front) (helement : Derives (.element bracket) element) :
    ∃ outside value, before outside ∧ Value value ∧
      front ++ element ++ [bracket.right] = outside ++ value := by
  obtain ⟨front, elements, hfront, helements, rfl⟩ := h
  refine ⟨front, _, hfront, .filled bracket (elements ++ [element]) (by simp) ?_,
    by simp [row_snoc]⟩
  intro e he
  rcases List.mem_append.mp he with he | he
  · exact helements e he
  · rw [List.mem_singleton.mp he]
    exact helement

/-- After a value the bracket around it goes on, or all is through. -/
theorem told_afterValue {front : List Char} (hin : Inside brackets front) (hvalue : Value value)
    (hread : read ++ [c] = front ++ value) : Told read c (afterValue brackets) := by
  cases brackets with
  | nil => exact ⟨front, value, hin, hvalue, hread⟩
  | cons bracket outer => exact .ended hin hvalue .nil (by simp [hread])

/-- The first byte of a value. -/
theorem told_startValue (hin : Inside brackets read) (hascii : IsAscii c)
    (h : startValue brackets (byte c) = .ok result) : Told read c result := by
  have hbyte : ∀ {d : Char}, IsAscii d → byte c = byte d → c = d := fun hd =>
    Text.byte_inj hascii hd
  unfold startValue at h
  split at h
  · rename_i word hword
    cases h
    obtain ⟨tail, hchars, hrest⟩ := Word.chars_of_first hascii hword
    rw [hrest]
    exact .word hin hchars rfl
  · split at h
    · rename_i part hpart
      cases h
      exact .number hin (.first c part hascii hpart) rfl
    · split at h
      · rename_i hquote
        cases h
        obtain rfl := hbyte (by decide) hquote
        have hnone : Goes SkippedText.step .more .plain (encode []) .plain := .nil _
        exact .text hin hnone rfl
      · split at h
        · rename_i hopen
          cases h
          obtain rfl := hbyte (by decide) hopen
          exact Seen.opened hin .nil rfl
        · split at h
          · rename_i hopen
            cases h
            obtain rfl := hbyte (by decide) hopen
            exact Seen.opened hin .nil rfl
          · cases h

/-- The first byte of a name. -/
theorem told_startName {front : List Char} (hamong : Among (Inside outer) .object front)
    (hblanks : Blanks blanks) (hread : read = front ++ blanks) (hascii : IsAscii c)
    (h : startName (.object :: outer) (byte c) = .ok result) : Told read c result := by
  unfold startName at h
  split at h
  · rename_i hquote
    cases h
    obtain rfl := Text.byte_inj hascii (by decide) hquote
    have hnone : Goes SkippedText.step .more .plain (encode []) .plain := .nil _
    exact .nameText hamong hblanks hnone (by simp [hread])
  · cases h

/-- A byte after a value inside a bracket. -/
theorem told_afterItem {front : List Char} (hin : Inside (bracket :: outer) front)
    (hvalue : Value value) (hblanks : Blanks blanks) (hread : read = front ++ value ++ blanks)
    (hascii : IsAscii c) (h : afterItem bracket outer (byte c) = .ok result) :
    Told read c result := by
  obtain ⟨front, lead, hamong, hlead, rfl⟩ := hin
  have helement := hlead.element hvalue hblanks
  have hwhole : read = front ++ (lead ++ value ++ blanks) := by simp [hread]
  unfold afterItem at h
  split at h
  · rename_i hclose
    cases h
    rw [bracket.closing_eq] at hclose
    obtain rfl := Text.byte_inj hascii bracket.isAscii_right hclose
    obtain ⟨outside, closed, houtside, hclosed, hsame⟩ := hamong.close helement
    refine told_afterValue houtside hclosed ?_
    rw [hwhole, hsame]
  · split at h
    · rename_i hcomma
      obtain rfl := Text.byte_inj hascii (by decide) hcomma
      have hmore := hamong.snoc helement
      rw [← hwhole] at hmore
      cases bracket with
      | list =>
        cases h
        exact .value ⟨_, [], hmore, .nil, (List.append_nil _).symm⟩
      | object =>
        cases h
        exact .name hmore .nil (List.append_nil _).symm
    · cases h

/-- A blank before a value changes nothing of where it stands. -/
theorem Inside.blank (h : Inside brackets read) (hc : IsBlank c) :
    Inside brackets (read ++ [c]) := by
  cases brackets with
  | nil => exact Blanks.snoc h hc
  | cons bracket outer =>
    obtain ⟨front, last, hamong, hlast, rfl⟩ := h
    refine ⟨front, last ++ [c], hamong, ?_, List.append_assoc ..⟩
    cases bracket with
    | list => exact Blanks.snoc hlast hc
    | object =>
      obtain ⟨before, name, after, lead, hbefore, hname, hafter, hlead, rfl⟩ := hlast
      exact ⟨before, name, after, lead ++ [c], hbefore, hname, hafter, hlead.snoc hc, by simp⟩

/-- What has been read of a value that is passed over, one byte on. -/
theorem told_step (h : s.Seen read) (hascii : IsAscii c) (hstep : s.step (byte c) = .ok result) :
    Told read c result := by
  have hblank : Json.isBlank (byte c) = true → IsBlank c := isBlank_of_byte hascii
  cases h with
  | value hin =>
    simp only [step] at hstep
    split at hstep
    · rename_i hc
      cases hstep
      exact .value (hin.blank (hblank hc))
    · exact told_startValue hin hascii hstep
  | @opened bracket outer _ front blanks hin hblanks hread =>
    have hamong : Among (Inside outer) bracket (front ++ [bracket.left]) :=
      ⟨front, [], hin, nofun, rfl⟩
    simp only [step] at hstep
    split at hstep
    · rename_i hc
      cases hstep
      exact .opened hin (hblanks.snoc (hblank hc)) (by simp [hread])
    · split at hstep
      · rename_i hclose
        cases hstep
        rw [bracket.closing_eq] at hclose
        obtain rfl := Text.byte_inj hascii bracket.isAscii_right hclose
        exact told_afterValue hin (.empty bracket blanks hblanks) (by simp [hread])
      · cases bracket with
        | list =>
          have hinside : Inside (.list :: outer) read :=
            ⟨_, blanks, hamong, hblanks, by simp [hread]⟩
          exact told_startValue hinside hascii hstep
        | object => exact told_startName hamong hblanks (by simp [hread]) hascii hstep
  | @name outer _ front blanks hamong hblanks hread =>
    simp only [step] at hstep
    split at hstep
    · rename_i hc
      cases hstep
      exact .name hamong (hblanks.snoc (hblank hc)) (by simp [hread])
    · exact told_startName hamong hblanks hread hascii hstep
  | @nameText outer _ front blanks body text hamong hblanks htext hread =>
    simp only [step] at hstep
    split at hstep
    · rename_i text' htext'
      cases hstep
      exact .nameText hamong hblanks
        (by rw [Text.encode_append]; exact htext.append (.char hascii htext')) (by simp [hread])
    · rename_i hdone
      cases hstep
      obtain ⟨rfl, hbody⟩ := (SkippedText.closes_iff hascii).mp ⟨text, htext, hdone⟩
      exact .colon hamong hblanks hbody .nil (by simp [hread, quoted])
    · cases hstep
  | @colon outer _ front blanks name after hamong hblanks hname hafter hread =>
    simp only [step] at hstep
    split at hstep
    · rename_i hc
      cases hstep
      exact .colon hamong hblanks hname (hafter.snoc (hblank hc)) (by simp [hread])
    · split at hstep
      · rename_i hcolon
        cases hstep
        obtain rfl := Text.byte_inj hascii (by decide) hcolon
        have hlead : Leads .object (blanks ++ quoted name ++ after ++ ':' :: []) :=
          ⟨blanks, name, after, [], hblanks, hname, hafter, .nil, rfl⟩
        exact .value ⟨front, _, hamong, hlead, by simp [hread]⟩
      · cases hstep
  | @word brackets _ front done tail word hin hword hread =>
    have htail : ∀ d ∈ tail, IsAscii d := fun d hd =>
      word.isAscii d (hword ▸ List.mem_append_right _ hd)
    simp only [step] at hstep
    split at hstep
    · rename_i rest hrest
      cases hstep
      rcases Word.step_cases htail hascii hrest with ⟨_, heq⟩ | ⟨rest', rfl, heq⟩
      · cases heq
      · cases heq
        have hsplit : word.chars = (done ++ [c]) ++ rest' := by simp [hword]
        exact .word hin hsplit (by simp [hread])
    · rename_i hdone
      cases hstep
      rcases Word.step_cases htail hascii hdone with ⟨rfl, _⟩ | ⟨_, _, heq⟩
      · exact told_afterValue hin (.word word) (by simp [hread, hword])
      · cases heq
    · cases hstep
  | @number brackets _ front n part hin hspells hread =>
    simp only [step] at hstep
    split at hstep
    · rename_i part' hpart
      cases hstep
      exact .number hin (.next hspells c part' hascii hpart) (by simp [hread])
    · cases hstep
    · rename_i hends
      have hnumber : Value n := .number n
        (NumberPart.spells_complete_iff.mp ⟨part, hspells, NumberPart.isComplete_of_ends hends⟩)
      cases brackets with
      | nil =>
        -- Outside brackets the byte is none of the value's.
        cases hstep
        exact ⟨front, n, hin, hnumber, hread⟩
      | cons bracket outer =>
        simp only at hstep
        split at hstep
        · rename_i hc
          cases hstep
          exact .ended hin hnumber (.snoc .nil (hblank hc)) (by simp [hread])
        · exact told_afterItem hin hnumber .nil (by simp [hread]) hascii hstep
  | @text brackets _ front body text hin htext hread =>
    simp only [step] at hstep
    split at hstep
    · rename_i text' htext'
      cases hstep
      exact .text hin (by rw [Text.encode_append]; exact htext.append (.char hascii htext'))
        (by simp [hread])
    · rename_i hdone
      cases hstep
      obtain ⟨rfl, hbody⟩ := (SkippedText.closes_iff hascii).mp ⟨text, htext, hdone⟩
      exact told_afterValue hin (.text body hbody) (by simp [hread, quoted])
    · cases hstep
  | @ended bracket outer _ front value blanks hin hvalue hblanks hread =>
    simp only [step] at hstep
    split at hstep
    · rename_i hc
      cases hstep
      exact .ended hin hvalue (hblanks.snoc (hblank hc)) (by simp [hread])
    · exact told_afterItem hin hvalue hblanks hread hascii hstep

/-! ### Wide bytes -/

/-- A place in a value where a string is passed over. -/
inductive Holds : (SkippedText → Skip) → Prop where
  | name (brackets : List Bracket) : Holds fun text => ⟨brackets, .nameText text⟩
  | value (brackets : List Bracket) : Holds fun text => ⟨brackets, .text text⟩

/-- No letter is wide that is still to come. -/
def Narrow (s : Skip) : Prop :=
  ∀ rest, s.part = .word rest → ∀ b ∈ rest, ¬ IsWide b

theorem Holds.narrow {inside : SkippedText → Skip} (h : Holds inside) (text : SkippedText) :
    (inside text).Narrow := by
  cases h <;> exact fun _ heq => nomatch heq

theorem Seen.narrow (h : s.Seen read) : s.Narrow := by
  intro rest heq b hb
  cases h <;> cases heq
  rename_i front done tail word hin hword hread
  have htail : ∀ d ∈ tail, IsAscii d := fun d hd =>
    word.isAscii d (hword ▸ List.mem_append_right _ hd)
  rw [Text.encode_of_ascii htail] at hb
  obtain ⟨d, hd, rfl⟩ := List.mem_map.mp hb
  exact Text.not_wide_byte (htail d hd)

/-- No number has a wide byte. -/
theorem next_wide (h : IsWide b) (part part' : NumberPart) : part.next b ≠ .more part' := by
  have hclass := unclassed_of_wide h
  have hne : ∀ d, IsAscii d → ¬ b = byte d := hclass.ascii
  intro heq
  cases part <;>
    simp only [NumberPart.next, NumberPart.afterWhole, hclass.digit, if_neg (hne '0' (by decide)),
      if_neg (hne '.' (by decide)), decide_eq_false (hne 'e' (by decide)),
      decide_eq_false (hne 'E' (by decide)), decide_eq_false (hne '+' (by decide)),
      decide_eq_false (hne '-' (by decide)), Bool.or_self, Bool.false_eq_true, if_false] at heq <;>
    cases heq

/-- No word has a wide byte. -/
theorem word_wide (h : IsWide b) {rest : List UInt8} (hrest : ∀ b ∈ rest, ¬ IsWide b)
    (result : Progress (List UInt8) Unit) : Word.step rest b ≠ .ok result := by
  intro heq
  cases rest with
  | nil => cases heq
  | cons next rest =>
    have hne : b ≠ next := fun hsame => hrest next List.mem_cons_self (hsame ▸ h)
    cases rest with
    | nil =>
      simp only [Word.step, if_neg hne] at heq
      cases heq
    | cons _ _ =>
      simp only [Word.step, if_neg hne] at heq
      cases heq

/-- A wide byte is passed over in a string, or stands after the value. -/
theorem step_wide (h : IsWide b) (hnarrow : s.Narrow) (hstep : s.step b = .ok result) :
    (∃ inside text text', Holds inside ∧ s = inside text ∧ text.step b = .ok (.more text') ∧
      result = .more (inside text')) ∨ result = .before := by
  have hclass := unclassed_of_wide h
  have hne : ∀ d, IsAscii d → ¬ b = byte d := hclass.ascii
  have hvalue : ∀ brackets, startValue brackets b ≠ .ok result := by
    intro brackets heq
    simp only [startValue, hclass.word, hclass.number, if_neg (hne '"' (by decide)),
      if_neg (hne '[' (by decide)), if_neg (hne '{' (by decide))] at heq
    cases heq
  have hname : ∀ brackets, startName brackets b ≠ .ok result := by
    intro brackets heq
    simp only [startName, if_neg (hne '"' (by decide))] at heq
    cases heq
  have htext : ∀ {text : SkippedText} {progress}, text.step b = .ok progress →
      ∃ text', progress = .more text' := by
    intro text progress heq
    rcases SkippedText.step_wide h heq with ⟨_, rfl⟩ | ⟨_, _, _, rfl⟩ <;> exact ⟨_, rfl⟩
  obtain ⟨brackets, part⟩ := s
  cases part with
  | value =>
    simp only [step, hclass.blank] at hstep
    exact absurd hstep (hvalue brackets)
  | opened =>
    simp only [step, hclass.blank] at hstep
    cases brackets with
    | nil => cases hstep
    | cons bracket outer =>
      simp only [bracket.closing_eq, if_neg (hne _ bracket.isAscii_right)] at hstep
      cases bracket with
      | list => exact absurd hstep (hvalue _)
      | object => exact absurd hstep (hname _)
  | name =>
    simp only [step, hclass.blank] at hstep
    exact absurd hstep (hname brackets)
  | nameText text =>
    simp only [step] at hstep
    split at hstep
    · rename_i text' heq
      cases hstep
      exact .inl ⟨_, text, text', .name brackets, rfl, heq, rfl⟩
    · rename_i heq
      obtain ⟨_, hmore⟩ := htext heq
      cases hmore
    · cases hstep
  | colon =>
    simp only [step, hclass.blank, if_neg (hne ':' (by decide))] at hstep
    cases hstep
  | word rest =>
    have hrest := word_wide h (hnarrow rest rfl)
    simp only [step] at hstep
    split at hstep
    · rename_i heq
      exact absurd heq (hrest _)
    · rename_i heq
      exact absurd heq (hrest _)
    · cases hstep
  | number part =>
    simp only [step] at hstep
    split at hstep
    · rename_i heq
      exact absurd heq (next_wide h _ _)
    · cases hstep
    · cases brackets with
      | nil =>
        cases hstep
        exact .inr rfl
      | cons bracket outer =>
        simp only [hclass.blank, afterItem, bracket.closing_eq,
          if_neg (hne _ bracket.isAscii_right), if_neg (hne ',' (by decide))] at hstep
        cases hstep
  | text text =>
    simp only [step] at hstep
    split at hstep
    · rename_i text' heq
      cases hstep
      exact .inl ⟨_, text, text', .value brackets, rfl, heq, rfl⟩
    · rename_i heq
      obtain ⟨_, hmore⟩ := htext heq
      cases hmore
    · cases hstep
  | ended =>
    simp only [step, hclass.blank] at hstep
    cases brackets with
    | nil => cases hstep
    | cons bracket outer =>
      simp only [afterItem, bracket.closing_eq, if_neg (hne _ bracket.isAscii_right),
        if_neg (hne ',' (by decide))] at hstep
      cases hstep

/-- What has been read of a value that is passed over, after a character
that is not ASCII. -/
theorem seen_wide (h : s.Seen read) (hwide : ∀ b ∈ encode [c], IsWide b)
    (hsome : encode [c] ≠ []) (hgoes : Goes step .more s (encode [c]) s') :
    s'.Seen (read ++ [c]) := by
  obtain ⟨b, middle, hb, hstep⟩ := hgoes.first_wide hwide hsome
  obtain ⟨inside, text, _, hinside, rfl, _⟩ | hbefore := step_wide hb h.narrow hstep
  · -- The string that goes on is the one that was begun.
    have hstays : ∀ text b s', True → IsWide b → step (inside text) b = .ok (.more s') →
        ∃ text', s' = inside text' ∧ text.step b = .ok (.more text') ∧ True := by
      intro text b s' _ hb hstep
      obtain ⟨inside', _, text', hinside', hsame, htext, heq⟩ | hbefore :=
        step_wide hb (hinside.narrow text) hstep
      · cases heq
        cases hinside <;> cases hinside' <;> cases hsame <;> exact ⟨_, rfl, htext, trivial⟩
      · cases hbefore
    obtain ⟨text', rfl, htext⟩ := hgoes.unlift inside _ IsWide hstays trivial hwide
    have hmore : ∀ {body : List Char}, Goes SkippedText.step .more .plain (encode body) text →
        Goes SkippedText.step .more .plain (encode (body ++ [c])) text' := by
      intro body hbody
      rw [Text.encode_append]
      exact hbody.append htext
    cases hinside with
    | name brackets =>
      cases h with
      | nameText hamong hblanks hbody hread =>
        exact .nameText hamong hblanks (hmore hbody) (by simp [hread])
    | value brackets =>
      cases h with
      | text hin hbody hread => exact .text hin (hmore hbody) (by simp [hread])
  · cases hbefore

end Skip

end Roster.Json
