import Roster.Proofs.Json.Skip

/-!
# `Roster.Proofs.Json.Passing`: every value is passed over

The reader of a value that is passed over gets through every well-formed
value, wherever it stands (`Skip.reads_of_derives`). The induction is
over the grammar, so over values and elements at once.

A value ends with its last byte, except for a number, which the next
byte ends. `Skip.Settled` covers both inside a bracket.
-/

set_option autoImplicit false

namespace Roster.Json

open Text (encode IsAscii IsWide)

namespace Skip

variable {c : Char} {outer brackets : List Bracket} {bracket : Bracket}
  {value blanks : List Char} {s : Skip}

/-- What is expected after a comma inside a bracket. -/
def afterComma : Bracket → SkipPart
  | .list => .value
  | .object => .name

/-- A value is through, or it is a number that may end here. -/
inductive Settled (brackets : List Bracket) : Skip → Prop where
  | ended (h : brackets ≠ []) : Settled brackets ⟨brackets, .ended⟩
  | number (part : NumberPart) (h : part.isComplete = true) :
      Settled brackets ⟨brackets, .number part⟩

/-- A value is read: its last byte ends it, or it is a number that may end
with it. -/
def Reads (brackets : List Bracket) (value : List Char) : Prop :=
  Takes step .more ⟨brackets, .value⟩ (encode value) (afterValue brackets) ∨
    ∃ part, part.isComplete = true ∧
      Goes step .more ⟨brackets, .value⟩ (encode value) ⟨brackets, .number part⟩

/-- Where a value, a name or the close of a bracket is expected, blanks
are passed over. -/
theorem goes_blanks {part : SkipPart}
    (hpart : part = .value ∨ part = .opened ∨ part = .name ∨ part = .colon)
    (h : Blanks blanks) : Goes step .more ⟨brackets, part⟩ (encode blanks) ⟨brackets, part⟩ := by
  refine Goes.blanks (fun c hc => ?_) h
  have hblank := hc.byte
  rcases hpart with rfl | rfl | rfl | rfl <;> simp only [step, hblank, if_true]

/-- A number that may end does so before any byte that cannot go on
with it. -/
theorem next_ends {part : NumberPart} (h : part.isComplete = true) (hascii : IsAscii c)
    (hc : c.isDigit = false) (hpoint : c ≠ '.') (hmark : c ≠ 'e') (hmark' : c ≠ 'E') :
    part.next (byte c) = .ends := by
  have hdigit : Json.isDigit (byte c) = false := by rw [isDigit_byte hascii, hc]
  have hne : ∀ {d : Char}, IsAscii d → c ≠ d → ¬ byte c = byte d := fun hd hne heq =>
    hne (Text.byte_inj hascii hd heq)
  cases part with
  | minus => cases h
  | point => cases h
  | mark => cases h
  | sign => cases h
  | exponent => simp only [NumberPart.next, hdigit, Bool.false_eq_true, if_false]
  | zero | whole | fraction =>
    simp only [NumberPart.next, NumberPart.afterWhole, hdigit, if_neg (hne (by decide) hpoint),
      decide_eq_false (hne (by decide) hmark), decide_eq_false (hne (by decide) hmark'),
      Bool.or_self, Bool.false_eq_true, if_false]

/-- A blank ends a number. -/
theorem next_blank {part : NumberPart} (h : part.isComplete = true) (hc : IsBlank c) :
    part.next (byte c) = .ends := by
  rcases hc with rfl | rfl | rfl | rfl <;>
    exact next_ends h (by decide) rfl (by decide) (by decide) (by decide)

/-- After a value inside a bracket blanks are passed over. -/
theorem Settled.wait (h : Settled (bracket :: outer) s) (hblanks : Blanks blanks) :
    ∃ s', Settled (bracket :: outer) s' ∧ Goes step .more s (encode blanks) s' := by
  have hended : ∀ {blanks}, Blanks blanks → Goes step .more ⟨bracket :: outer, .ended⟩
      (encode blanks) ⟨bracket :: outer, .ended⟩ := by
    refine Goes.blanks fun c hc => ?_
    simp only [step, hc.byte, if_true]
  cases h with
  | ended hsome => exact ⟨_, .ended hsome, hended hblanks⟩
  | number part hcomplete =>
    cases blanks with
    | nil => exact ⟨_, .number part hcomplete, .nil _⟩
    | cons c rest =>
      -- The first blank ends the number.
      obtain ⟨hc, hrest⟩ := List.forall_mem_cons.mp hblanks
      refine ⟨_, .ended (by simp), ?_⟩
      rw [Text.encode_cons_ascii hc.isAscii]
      refine .cons ?_ (hended hrest)
      simp only [step, next_blank hcomplete hc, hc.byte, if_true]

/-- After a value inside a bracket the bracket closes or a comma comes. -/
theorem Settled.afterItem (h : Settled (bracket :: outer) s)
    (hc : c = bracket.right ∨ c = ',') : s.step (byte c) = afterItem bracket outer (byte c) := by
  have hblank : Json.isBlank (byte c) = false := by
    rcases hc with rfl | rfl
    · cases bracket <;> rfl
    · rfl
  cases h with
  | ended => simp only [step, hblank, Bool.false_eq_true, if_false]
  | number part hcomplete =>
    have hends : part.next (byte c) = .ends := by
      rcases hc with rfl | rfl
      · cases bracket <;>
          exact next_ends hcomplete (by decide) rfl (by decide) (by decide) (by decide)
      · exact next_ends hcomplete (by decide) rfl (by decide) (by decide) (by decide)
    simp only [step, hends, hblank, Bool.false_eq_true, if_false]

/-- A comma leads to the next element. -/
theorem Settled.comma (h : Settled (bracket :: outer) s) :
    s.step (byte ',') = .ok (.more ⟨bracket :: outer, afterComma bracket⟩) := by
  rw [h.afterItem (.inr rfl)]
  cases bracket <;> rfl

/-- The closing bracket ends the value. -/
theorem Settled.close (h : Settled (bracket :: outer) s) :
    s.step (byte bracket.right) = .ok (afterValue outer) := by
  rw [h.afterItem (.inl rfl)]
  cases bracket <;> rfl

/-- A value that is read inside a bracket is through, or is a number that
may end. -/
theorem Reads.settled (h : Reads (bracket :: outer) value) :
    ∃ s, Settled (bracket :: outer) s ∧
      Goes step .more ⟨bracket :: outer, .value⟩ (encode value) s := by
  rcases h with h | ⟨part, hcomplete, h⟩
  · exact ⟨_, .ended (by simp), h.goes⟩
  · exact ⟨_, .number part hcomplete, h⟩

/-- A number is passed over. -/
theorem goes_of_spells {part : NumberPart} {n : List Char} (h : Spells part n) :
    Goes step .more ⟨brackets, .value⟩ (encode n) ⟨brackets, .number part⟩ := by
  induction h with
  | first c part hascii hfirst =>
    have hclass : Json.isBlank (byte c) = false ∧ Word.ofFirst? (byte c) = none :=
      Text.forall_ascii
        (p := fun c => NumberPart.first? (byte c) ≠ none →
          Json.isBlank (byte c) = false ∧ Word.ofFirst? (byte c) = none)
        (by decide +kernel) hascii (by simp [hfirst])
    refine .char hascii ?_
    simp only [step, hclass.1, startValue, hclass.2, hfirst, Bool.false_eq_true, if_false]
  | @next part n _ c part' hascii hnext ih =>
    rw [Text.encode_append]
    refine ih.append (.char hascii ?_)
    simp only [step, hnext]

/-- A word is passed over. -/
theorem reads_word (word : Word) : Reads brackets word.chars := by
  refine .inl ?_
  cases word with
  | null =>
    exact ⟨[byte 'n', byte 'u', byte 'l'], byte 'l', ⟨brackets, .word [byte 'l']⟩, rfl,
      .cons rfl (.cons rfl (.single rfl)), rfl⟩
  | yes =>
    exact ⟨[byte 't', byte 'r', byte 'u'], byte 'e', ⟨brackets, .word [byte 'e']⟩, rfl,
      .cons rfl (.cons rfl (.single rfl)), rfl⟩
  | no =>
    exact ⟨[byte 'f', byte 'a', byte 'l', byte 's'], byte 'e', ⟨brackets, .word [byte 'e']⟩, rfl,
      .cons rfl (.cons rfl (.cons rfl (.single rfl))), rfl⟩

/-- A string is passed over where one stands. -/
theorem goes_body {inside : SkippedText → Skip} (hinside : Holds inside) {body : List Char}
    (h : Body body) : Goes step .more (inside .plain) (encode body) (inside .plain) := by
  refine Goes.lift inside (fun text b text' hstep => ?_) (SkippedText.goes_of_body h)
  cases hinside <;> simp only [step, hstep]

/-- The first character of a value is no blank and closes nothing. -/
theorem head_of_value (h : Value value) :
    ∃ c rest, value = c :: rest ∧ IsAscii c ∧ ¬ IsBlank c ∧ c ≠ ']' := by
  cases h with
  | word word => cases word <;> exact ⟨_, _, rfl, by decide, by decide, by decide⟩
  | text body => exact ⟨'"', _, rfl, by decide, by decide, by decide⟩
  | empty bracket => cases bracket <;> exact ⟨_, _, rfl, by decide, by decide, by decide⟩
  | filled bracket => cases bracket <;> exact ⟨_, _, rfl, by decide, by decide, by decide⟩
  | number n hnumber =>
    obtain ⟨part, hspells, hcomplete⟩ := NumberPart.spells_complete_iff.mpr hnumber
    clear hnumber hcomplete
    induction hspells with
    | first c part hascii hfirst =>
      have hclass : ¬ IsBlank c ∧ c ≠ ']' :=
        Text.forall_ascii
          (p := fun c => NumberPart.first? (byte c) ≠ none → ¬ IsBlank c ∧ c ≠ ']')
          (by decide +kernel) hascii (by simp [hfirst])
      exact ⟨c, [], rfl, hascii, hclass.1, hclass.2⟩
    | next _ c part' _ _ ih =>
      obtain ⟨d, rest, rfl, hd⟩ := ih
      exact ⟨d, rest ++ [c], rfl, hd⟩

/-- Right after an array was opened a value is read as after a comma. -/
theorem goes_opened (hvalue : Value value)
    (h : Goes step .more ⟨.list :: outer, .value⟩ (encode value) s) :
    Goes step .more ⟨.list :: outer, .opened⟩ (encode value) s := by
  obtain ⟨c, rest, rfl, hascii, hblank, hright⟩ := head_of_value hvalue
  rw [Text.encode_cons_ascii hascii] at h ⊢
  refine h.of_first ?_
  have hnotBlank : Json.isBlank (byte c) = false := by
    rw [isBlank_byte hascii, decide_eq_false hblank]
  have hnotRight : ¬ byte c = Bracket.list.closing := fun heq =>
    hright (Text.byte_inj hascii (by decide) heq)
  simp only [step, hnotBlank, if_neg hnotRight, startItem, Bool.false_eq_true, if_false]

/-- How the texts of a symbol are read: a value wherever it stands, and an
element after the bracket or after a comma. -/
def ReadsSymbol : Symbol → List Char → Prop
  | .value, text => ∀ brackets, Reads brackets text
  | .element bracket, text => ∀ outer part, part = .opened ∨ part = afterComma bracket →
      ∃ s, Settled (bracket :: outer) s ∧
        Goes step .more ⟨bracket :: outer, part⟩ (encode text) s

/-- A row of elements is read. -/
theorem goes_row {elements : List (List Char)} (hsome : elements ≠ [])
    (h : ∀ element ∈ elements, ReadsSymbol (.element bracket) element) {part : SkipPart}
    (hpart : part = .opened ∨ part = afterComma bracket) :
    ∃ s, Settled (bracket :: outer) s ∧
      Goes step .more ⟨bracket :: outer, part⟩ (encode (row elements)) s := by
  induction elements generalizing part with
  | nil => exact absurd rfl hsome
  | cons element rest ih =>
    obtain ⟨helement, hrest⟩ := List.forall_mem_cons.mp h
    obtain ⟨s, hs, hgoes⟩ := helement outer part hpart
    cases rest with
    | nil =>
      rw [row_singleton]
      exact ⟨s, hs, hgoes⟩
    | cons next more =>
      obtain ⟨s', hs', hmore⟩ := ih (by simp) hrest (.inr rfl)
      refine ⟨s', hs', ?_⟩
      rw [row_cons_cons, Text.encode_append, Text.encode_cons_ascii (by decide)]
      exact hgoes.append (.cons hs.comma hmore)

/-- Every value and every element is read. -/
theorem reads_of_derives {sym : Symbol} {text : List Char} (h : Derives sym text) :
    ReadsSymbol sym text := by
  induction h with
  | word word => exact fun _ => reads_word word
  | number n hnumber =>
    obtain ⟨part, hspells, hcomplete⟩ := NumberPart.spells_complete_iff.mpr hnumber
    exact fun _ => .inr ⟨part, hcomplete, goes_of_spells hspells⟩
  | text body hbody =>
    intro brackets
    refine .inl ?_
    rw [quoted, Text.encode_cons_ascii (by decide), Text.encode_append]
    have hbegin : Goes step .more ⟨brackets, .value⟩ [byte '"'] ⟨brackets, .text .plain⟩ :=
      .single rfl
    exact (hbegin.append (goes_body (.value brackets) hbody)).takes rfl
  | empty bracket blanks hblanks =>
    -- The bracket that closes is the one that was put on the stack.
    intro brackets
    refine .inl ?_
    rw [Text.encode_cons_ascii bracket.isAscii_left, Text.encode_append, Text.encode_singleton,
      Text.encodeChar_ascii bracket.isAscii_right]
    have hbegin : Goes step .more ⟨brackets, .value⟩ [byte bracket.left]
        ⟨bracket :: brackets, .opened⟩ := by
      cases bracket <;> exact .single rfl
    refine (hbegin.append (goes_blanks (.inr (.inl rfl)) hblanks)).takes ?_
    cases bracket <;> rfl
  | filled bracket elements hsome _ ih =>
    intro brackets
    refine .inl ?_
    rw [Text.encode_cons_ascii bracket.isAscii_left, Text.encode_append, Text.encode_singleton,
      Text.encodeChar_ascii bracket.isAscii_right]
    have hbegin : Goes step .more ⟨brackets, .value⟩ [byte bracket.left]
        ⟨bracket :: brackets, .opened⟩ := by
      cases bracket <;> exact .single rfl
    obtain ⟨s, hs, hrow⟩ := goes_row hsome ih (.inl rfl)
    exact (hbegin.append hrow).takes hs.close
  | item before value after hbefore hvalue hafter ih =>
    -- Right after the bracket the array might close, so the state differs.
    intro outer part hpart
    obtain ⟨s, hs, hgoes⟩ := (ih (.list :: outer)).settled
    obtain ⟨s', hs', hblanks⟩ := hs.wait hafter
    refine ⟨s', hs', ?_⟩
    rw [Text.encode_append, Text.encode_append]
    rcases hpart with rfl | rfl
    · exact ((goes_blanks (.inr (.inl rfl)) hbefore).append (goes_opened hvalue hgoes)).append
        hblanks
    · exact ((goes_blanks (.inl rfl) hbefore).append hgoes).append hblanks
  | member before name after lead value trail hbefore hname hafter hlead _ htrail ih =>
    intro outer part hpart
    obtain ⟨s, hs, hgoes⟩ := (ih (.object :: outer)).settled
    obtain ⟨s', hs', hblanks⟩ := hs.wait htrail
    refine ⟨s', hs', ?_⟩
    have hwait : Goes step .more ⟨.object :: outer, part⟩ (encode before)
        ⟨.object :: outer, part⟩ := by
      rcases hpart with rfl | rfl
      · exact goes_blanks (.inr (.inl rfl)) hbefore
      · exact goes_blanks (.inr (.inr (.inl rfl))) hbefore
    have hquote : Goes step .more ⟨.object :: outer, part⟩ [byte '"']
        ⟨.object :: outer, .nameText .plain⟩ := by
      rcases hpart with rfl | rfl <;> exact .single rfl
    have hclose : Goes step .more ⟨.object :: outer, .nameText .plain⟩ [byte '"']
        ⟨.object :: outer, .colon⟩ := .single rfl
    have hcolon : Goes step .more ⟨.object :: outer, .colon⟩ [byte ':']
        ⟨.object :: outer, .value⟩ := .single rfl
    have hname := (hwait.append hquote).append ((goes_body (.name _) hname).append hclose)
    have hmark := (goes_blanks (.inr (.inr (.inr rfl))) hafter).append hcolon
    have hrest := ((goes_blanks (.inl rfl) hlead).append hgoes).append hblanks
    have hwhole := hname.append (hmark.append hrest)
    have hcolonAscii : IsAscii ':' := by decide
    have hquoteAscii : IsAscii '"' := by decide
    simpa only [quoted, Text.encode_append, Text.encode_cons_ascii hcolonAscii,
      Text.encode_cons_ascii hquoteAscii, Text.encode_nil, List.append_assoc, List.cons_append,
      List.nil_append] using hwhole

end Skip

end Roster.Json
