import Roster.Proofs.Json.Reading
import Roster.Proofs.Json.Unpaired

/-!
# `Roster.Proofs.Json.Content`: values where a name is expected

`Holds` says what a value holds, as far as it counts where a name is
expected: a text, or something else that can be told. Every value holds
something (`exists_holds`).

A value that holds no text is refused, and `Content.refusal?` gives the
reason. The reader finds it at once for an array or an object, at the
last letter of a word, and for a number at the byte after it, since
nothing in the number says that it has ended
(`RecordPart.fails_value`).
-/

set_option autoImplicit false

namespace Roster.Json

open Text (encode IsAscii)
open Employee (Field Draft)

variable {c : Char} {cs value rest : List Char} {part : NumberPart}

/-! ### Numbers -/

namespace Numeral

variable {n : Numeral}

/-- The number with one more character, if it can go on with it. -/
def next? (n : Numeral) (c : Char) : Option Numeral :=
  match n.part.next (byte c) with
  | .more part => some (n.push part (byte c))
  | .ends | .malformed => none

/-- The number that some characters begin, if they begin one. -/
def ofChars? : List Char → Option Numeral
  | [] => none
  | c :: rest =>
    match NumberPart.first? (byte c) with
    | some part => rest.foldlM next? (start part (byte c))
    | none => none

theorem ofChars?_snoc (h : ofChars? cs = some n) (c : Char) :
    ofChars? (cs ++ [c]) = n.next? c := by
  cases cs with
  | nil => cases h
  | cons first rest =>
    simp only [List.cons_append, ofChars?] at h ⊢
    split at h
    · rw [List.foldlM_append, h]
      exact bind_pure (n.next? c)
    · cases h

end Numeral

/-! ### What a value holds -/

/-- What a value holds, as far as it counts where a name is expected. -/
inductive Content where
  | text (s : String)
  /-- A string that stands for no text. -/
  | noText
  | word (word : Word)
  | number (n : Numeral)
  | list
  | object

namespace Content

/-- The text of a value that holds one. -/
def text? : Content → Option String
  | .text s => some s
  | _ => none

/-- Why a value is no name, if it is none. A string that stands for no
text is malformed, and so is a number out of range; of anything else it
is told what it is. -/
def refusal? : Content → Option Error
  | .text _ => none
  | .noText => some .malformed
  | .word w => some (.invalid (.mistyped w.found .text))
  | .number n =>
    match n.found? with
    | some found => some (.invalid (.mistyped found .text))
    | none => some .malformed
  | .list => some (.invalid (.mistyped .list .text))
  | .object => some (.invalid (.mistyped .object .text))

/-- Only a text is welcome. -/
theorem exists_text_of_refusal?_eq_none {content : Content} (h : content.refusal? = none) :
    ∃ s, content = .text s := by
  cases content with
  | text s => exact ⟨s, rfl⟩
  | number n =>
    simp only [refusal?] at h
    split at h <;> cases h
  | noText | word | list | object => cases h

end Content

/-- A value holds a content. Of an array or an object the bracket says
enough. -/
inductive Holds : List Char → Content → Prop where
  | text {value : List Char} {s : String} (h : IsText value s) : Holds value (.text s)
  | noText (body : List Char) (h : Body body) (hno : ∀ text, ¬ Spelled body text) :
      Holds (quoted body) .noText
  | word (word : Word) : Holds word.chars (.word word)
  | number {cs : List Char} {n : Numeral} (h : Number cs) (hn : Numeral.ofChars? cs = some n) :
      Holds cs (.number n)
  | list (rest : List Char) : Holds ('[' :: rest) .list
  | object (rest : List Char) : Holds ('{' :: rest) .object

/-- A value that holds a text is a string that stands for it. -/
theorem Holds.isText {s : String} (h : Holds value (.text s)) : IsText value s := by
  cases h with
  | text h => exact h

/-! ### Values are told -/

namespace RecordPart

variable {d : Draft} {field : Field}

/-- Where a name is expected, a number is read as what it spells. -/
theorem goes_number (d : Draft) (field : Field) (h : Spells part cs) :
    ∃ n, Numeral.ofChars? cs = some n ∧ n.part = part ∧
      Goes step .more (.value d field) (encode cs) (.mistyped ⟨.text, .number n⟩) := by
  induction h with
  | first c part hascii hfirst =>
    -- What begins a number is neither a blank nor a quote nor a letter.
    have hclass : Json.isBlank (byte c) = false ∧ byte c ≠ byte '"' ∧
        Word.ofFirst? (byte c) = none :=
      Text.forall_ascii
        (p := fun c => NumberPart.first? (byte c) ≠ none →
          Json.isBlank (byte c) = false ∧ byte c ≠ byte '"' ∧ Word.ofFirst? (byte c) = none)
        (by decide +kernel) hascii (by simp [hfirst])
    refine ⟨Numeral.start part (byte c), ?_, Numeral.push_part .., .char hascii ?_⟩
    · simp only [Numeral.ofChars?, hfirst]
      rfl
    · simp only [step, hclass.1, if_neg hclass.2.1, wrong, Mistyped.start, hclass.2.2, hfirst,
        Bool.false_eq_true, if_false]
      rfl
  | next hspells c part' hascii hnext ih =>
    obtain ⟨n, hn, rfl, hgoes⟩ := ih
    refine ⟨n.push part' (byte c), ?_, Numeral.push_part .., ?_⟩
    · rw [Numeral.ofChars?_snoc hn, Numeral.next?, hnext]
    · rw [Text.encode_append]
      refine hgoes.append (.char hascii ?_)
      simp only [step, Mistyped.step, hnext]
      rfl

/-- A number is told at the byte after it. -/
theorem fails_number {n : Numeral} (h : Number cs) (hn : Numeral.ofChars? cs = some n)
    (hc : IsBlank c ∨ c = ',' ∨ c = '}') :
    Fails step .more (.value d field) (encode (cs ++ c :: rest)) (Mistyped.tellNumber .text n) := by
  obtain ⟨part, hspells, hcomplete⟩ := NumberPart.spells_complete_iff.mpr h
  obtain ⟨n', hn', rfl, hgoes⟩ := goes_number d field hspells
  obtain rfl : n' = n := Option.some.inj (hn'.symm.trans hn)
  have hascii : IsAscii c := by
    rcases hc with hc | rfl | rfl
    · exact hc.isAscii
    · decide
    · decide
  have htold : step (.mistyped ⟨.text, .number n'⟩) (byte c) =
      .error (Mistyped.tellNumber .text n') := by
    simp only [step, Mistyped.step, next_afterMember hcomplete hc]
    rfl
  rw [Text.encode_append, Text.encode_cons_ascii hascii]
  exact hgoes.append_fails (.first htold _)

/-- A word is told at its last letter. -/
theorem fails_word (word : Word) :
    Fails step .more (.value d field) (encode word.chars)
      (.invalid (.mistyped word.found .text)) := by
  cases word with
  | null =>
    exact ⟨[byte 'n', byte 'u', byte 'l'], byte 'l', [], _, rfl,
      .cons rfl (.cons rfl (.single rfl)), rfl⟩
  | yes =>
    exact ⟨[byte 't', byte 'r', byte 'u'], byte 'e', [], _, rfl,
      .cons rfl (.cons rfl (.single rfl)), rfl⟩
  | no =>
    exact ⟨[byte 'f', byte 'a', byte 'l', byte 's'], byte 'e', [], _, rfl,
      .cons rfl (.cons rfl (.cons rfl (.single rfl))), rfl⟩

/-- A value that is no name is refused. What comes after it ends a
number. -/
theorem fails_value {content : Content} {e : Error} (h : Holds value content)
    (hrefusal : content.refusal? = some e) (hc : IsBlank c ∨ c = ',' ∨ c = '}') :
    Fails step .more (.value d field) (encode (value ++ c :: rest)) e := by
  cases h with
  | text => cases hrefusal
  | noText body hbody hno =>
    cases hrefusal
    have hquote : Goes step .more (.value d field) [byte '"'] ((Slot.value d field).part .start) :=
      .single rfl
    have hinside := (TextToken.fails_of_not_spelled hbody hno).lift (Slot.value d field).part
      (fun _ _ _ => step_part_more _) (fun _ _ => step_part_error _)
    rw [Text.encode_append, quoted, Text.encode_cons_ascii (by decide)]
    exact (hquote.append_fails hinside).append _
  | word word =>
    cases hrefusal
    rw [Text.encode_append]
    exact (fails_word word).append _
  | @number _ n hnumber hn =>
    have htold : Mistyped.tellNumber .text n = e := by
      simp only [Content.refusal?] at hrefusal
      unfold Mistyped.tellNumber
      cases hfound : n.found? with
      | none =>
        rw [hfound] at hrefusal
        exact Option.some.inj hrefusal
      | some found =>
        rw [hfound] at hrefusal
        exact Option.some.inj hrefusal
    rw [← htold]
    exact fails_number hnumber hn hc
  | list =>
    cases hrefusal
    rw [List.cons_append, Text.encode_cons_ascii (by decide)]
    exact .first rfl _
  | object =>
    cases hrefusal
    rw [List.cons_append, Text.encode_cons_ascii (by decide)]
    exact .first rfl _

end RecordPart

/-- Every value holds something. -/
theorem exists_holds (h : Value value) : ∃ content, Holds value content := by
  cases h with
  | word word => exact ⟨_, .word word⟩
  | number n hnumber =>
    obtain ⟨part, hspells, _⟩ := NumberPart.spells_complete_iff.mpr hnumber
    -- Any place where a name is expected will do: the number read there is the one it spells.
    obtain ⟨n, hn, _⟩ := RecordPart.goes_number .empty .firstName hspells
    exact ⟨_, .number hnumber hn⟩
  | text body hbody =>
    by_cases hspelled : ∃ text, Spelled body text
    · obtain ⟨text, hspelled⟩ := hspelled
      have htext : IsText (quoted body) (String.ofList text) :=
        ⟨body, rfl, by rwa [String.toList_ofList]⟩
      exact ⟨_, .text htext⟩
    · exact ⟨_, .noText body hbody fun text htext => hspelled ⟨text, htext⟩⟩
  | empty bracket =>
    cases bracket with
    | list => exact ⟨_, .list _⟩
    | object => exact ⟨_, .object _⟩
  | filled bracket =>
    cases bracket with
    | list => exact ⟨_, .list _⟩
    | object => exact ⟨_, .object _⟩

end Roster.Json
