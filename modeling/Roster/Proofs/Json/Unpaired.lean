import Roster.Proofs.Json.TextToken

/-!
# `Roster.Proofs.Json.Unpaired`: strings that stand for no text

A well-formed string may hold a surrogate without its partner, and then
it stands for no text. Where the text is wanted such a string is
malformed (`TextToken.fails_of_not_spelled`).

After a leading surrogate the reader is in a state of its own, in which
only a trailing surrogate is welcome. So the induction over a body
follows both states (`TextToken.Settles`).
-/

set_option autoImplicit false

namespace Roster.Json

open Text (encode IsAscii)

namespace TextToken

variable {c : Char} {body ds : List Char} {n lead : Nat} {gathered : List UInt8}

/-- A code unit is refused at the last of its digits. -/
theorem fails_of_codeUnit {lead : Option Nat} (h : CodeUnit ds n)
    (hunit : unit ⟨gathered, .hex lead []⟩ lead n = .error .malformed) :
    Fails step .more ⟨gathered, .hex lead []⟩ (encode ds) .malformed := by
  obtain ⟨front, last, middle, hds, hfront, hlast⟩ := @codeUnit_judged ds n gathered lead h
  rw [hunit] at hlast
  rw [hds]
  exact hfront.append_fails (.first hlast [])

/-- What becomes of a body and the quote that closes it. Outside any
escape the body stands for a text or is refused. After a leading
surrogate it begins with the trailing one, and the rest stands for a
text, or it is refused. -/
structure Settles (body : List Char) : Prop where
  plain : ∀ gathered, (∃ text, Spelled body text) ∨
    Fails step .more ⟨gathered, .plain⟩ (encode (body ++ ['"'])) .malformed
  waiting : ∀ gathered lead,
    (∃ es trail rest text, body = '\\' :: 'u' :: (es ++ rest) ∧ CodeUnit es trail ∧
      isTrail trail = true ∧ Spelled rest text) ∨
    Fails step .more ⟨gathered, .partnerSlash lead⟩ (encode (body ++ ['"'])) .malformed

/-- A body is settled after all that leads out of an escape. -/
theorem Settles.after (h : Settles body) {t : TextToken} {front : List UInt8}
    (hfront : Goes step .more t front ⟨gathered, .plain⟩) :
    (∃ text, Spelled body text) ∨
      Fails step .more t (front ++ encode (body ++ ['"'])) .malformed :=
  (h.plain gathered).imp_right hfront.append_fails

/-- Nothing but a backslash may follow a leading surrogate. -/
theorem step_waiting {b : UInt8} (h : b ≠ byte '\\') :
    step ⟨gathered, .partnerSlash lead⟩ b = .error .malformed := by
  simp only [step, if_neg h]

theorem Settles.nil : Settles [] where
  plain _ := .inl ⟨[], .nil⟩
  waiting _ _ := .inr (.first (step_waiting (by decide)) _)

theorem Settles.cons_plain (hc : IsPlain c) (h : Settles body) : Settles (c :: body) where
  plain gathered := by
    rw [show c :: body ++ ['"'] = [c] ++ (body ++ ['"']) from rfl, Text.encode_append]
    refine (h.after (goes_plain hc.plainByte gathered)).imp_left ?_
    rintro ⟨text, hspelled⟩
    exact ⟨c :: text, .plain c hc hspelled⟩
  waiting gathered lead := by
    -- The first byte of the character is not that of a backslash.
    obtain ⟨b, rest, hbytes⟩ := List.exists_cons_of_ne_nil (Text.encodeChar_ne_nil c)
    have hplain : PlainByte b := by
      refine hc.plainByte b ?_
      rw [Text.encode_singleton, hbytes]
      exact List.mem_cons_self
    rw [List.cons_append, Text.encode_cons, hbytes, List.cons_append]
    exact .inr (.first (step_waiting hplain.backslash) _)

theorem Settles.cons_short {letter : Char} (hc : (letter, c) ∈ shortEscapes)
    (h : Settles body) : Settles ('\\' :: letter :: body) := by
  have hletter := isAscii_of_shortEscape hc
  have hshort := (shortEscape?_byte hletter).mpr hc
  have hmark : byte letter ≠ byte 'u' := by
    intro heq
    rw [heq] at hshort
    cases hshort
  have hbytes : encode ('\\' :: letter :: body ++ ['"']) =
      [byte '\\', byte letter] ++ encode (body ++ ['"']) := by
    rw [List.cons_append, List.cons_append, Text.encode_cons_ascii (by decide),
      Text.encode_cons_ascii hletter]
    rfl
  constructor
  · intro gathered
    have hescape : Goes step .more ⟨gathered, .plain⟩ [byte '\\', byte letter]
        (push ⟨gathered, .begun⟩ c) := by
      refine .cons rfl (.single ?_)
      simp only [step, if_neg hmark, hshort]
    rw [hbytes]
    refine (h.after hescape).imp_left ?_
    rintro ⟨text, hspelled⟩
    exact ⟨c :: text, .short letter c hc hspelled⟩
  · intro gathered lead
    have hslash : Goes step .more ⟨gathered, .partnerSlash lead⟩ [byte '\\']
        ⟨gathered, .partnerMark lead⟩ :=
      .single rfl
    have hrefused : step ⟨gathered, .partnerMark lead⟩ (byte letter) = .error .malformed := by
      simp only [step, if_neg hmark]
    rw [hbytes]
    exact .inr (hslash.append_fails (.first hrefused _))

/-- A code unit is not judged as anything but malformed. -/
theorem eq_malformed_of_unit {t : TextToken} {lead : Option Nat} {e : Error}
    (h : unit t lead n = .error e) : e = .malformed := by
  cases lead with
  | none =>
    simp only [unit] at h
    split at h
    · exact (Except.error.inj h).symm
    · split at h <;> cases h
  | some lead =>
    simp only [unit] at h
    split at h
    · cases h
    · exact (Except.error.inj h).symm

/-- Two surrogates that follow each other stand for a character. -/
theorem exists_spelled_pair {es rest text : List Char} {trail : Nat} (hunit : CodeUnit ds lead)
    (hlead : isLead lead = true) (hpartner : CodeUnit es trail) (htrail : isTrail trail = true)
    (h : Spelled rest text) :
    ∃ c, Spelled ('\\' :: 'u' :: (ds ++ '\\' :: 'u' :: (es ++ rest))) (c :: text) := by
  have hpair : unit start (some lead) trail = .ok (start.push (ofSurrogates lead trail)) := by
    simp [unit, htrail]
  obtain ⟨c, _, hc, _⟩ := unit_some_cases hlead hpair
  simp only [isLead, isTrail, Bool.and_eq_true, decide_eq_true_eq] at hlead htrail
  exact ⟨c, .pair ds es lead trail c hunit hlead hpartner htrail hc h⟩

/-- The bytes of an escaped code unit before the rest of a string. -/
theorem encode_unit (ds body : List Char) : encode ('\\' :: 'u' :: (ds ++ body) ++ ['"']) =
    [byte '\\', byte 'u'] ++ (encode ds ++ encode (body ++ ['"'])) := by
  rw [List.cons_append, List.cons_append, Text.encode_cons_ascii (by decide),
    Text.encode_cons_ascii (by decide), List.append_assoc, Text.encode_append]
  rfl

/-- Outside any escape a code unit stands for a character, waits for its
partner or is refused. -/
theorem Settles.plain_unit (hunit : CodeUnit ds n) (h : Settles body) (gathered : List UInt8) :
    (∃ text, Spelled ('\\' :: 'u' :: (ds ++ body)) text) ∨
    Fails step .more ⟨gathered, .plain⟩ (encode ('\\' :: 'u' :: (ds ++ body) ++ ['"']))
      .malformed := by
  have hmark : Goes step .more ⟨gathered, .plain⟩ [byte '\\', byte 'u']
      ⟨gathered, .hex none []⟩ :=
    .cons rfl (.single rfl)
  cases hjudged : unit ⟨gathered, .hex none []⟩ none n with
  | error e =>
    obtain rfl := eq_malformed_of_unit hjudged
    rw [encode_unit]
    exact .inr (hmark.append_fails ((fails_of_codeUnit hunit hjudged).append _))
  | ok t =>
    have hdigits := hmark.append (goes_of_codeUnit hunit hjudged)
    rw [encode_unit, ← List.append_assoc]
    rcases unit_none_cases hunit.lt hjudged with ⟨hlead, rfl⟩ | ⟨c, rfl, rfl⟩
    · -- A leading surrogate: what comes next decides, which is the other half of the induction.
      rcases h.waiting gathered n with
        ⟨es, trail, rest, text, rfl, hpartner, htrail, hspelled⟩ | hfails
      · obtain ⟨c, hpair⟩ := exists_spelled_pair hunit hlead hpartner htrail hspelled
        exact .inl ⟨c :: text, hpair⟩
      · exact .inr (hdigits.append_fails hfails)
    · refine (h.after hdigits).imp_left ?_
      rintro ⟨text, hspelled⟩
      exact ⟨c :: text, .unit ds c hunit hspelled⟩

/-- After a leading surrogate a code unit is its partner or is refused. -/
theorem Settles.waiting_unit (hunit : CodeUnit ds n) (h : Settles body) (gathered : List UInt8)
    (lead : Nat) :
    (∃ es trail rest text, '\\' :: 'u' :: (ds ++ body) = '\\' :: 'u' :: (es ++ rest) ∧
      CodeUnit es trail ∧ isTrail trail = true ∧ Spelled rest text) ∨
    Fails step .more ⟨gathered, .partnerSlash lead⟩ (encode ('\\' :: 'u' :: (ds ++ body) ++ ['"']))
      .malformed := by
  have hmark : Goes step .more ⟨gathered, .partnerSlash lead⟩ [byte '\\', byte 'u']
      ⟨gathered, .hex (some lead) []⟩ :=
    .cons rfl (.single rfl)
  cases htrail : isTrail n with
  | false =>
    have hjudged : unit ⟨gathered, .hex (some lead) []⟩ (some lead) n = .error .malformed := by
      simp [unit, htrail]
    rw [encode_unit]
    exact .inr (hmark.append_fails ((fails_of_codeUnit hunit hjudged).append _))
  | true =>
    have hjudged : unit ⟨gathered, .hex (some lead) []⟩ (some lead) n =
        .ok (push ⟨gathered, .hex (some lead) []⟩ (ofSurrogates lead n)) := by
      simp [unit, htrail]
    rw [encode_unit, ← List.append_assoc]
    refine (h.after (hmark.append (goes_of_codeUnit hunit hjudged))).imp_left ?_
    rintro ⟨text, hspelled⟩
    exact ⟨ds, n, body, text, rfl, hunit, htrail, hspelled⟩

/-- What becomes of a body is settled by its pieces. -/
theorem settles_of_body (h : Body body) : Settles body := by
  induction h with
  | nil => exact .nil
  | plain c hc _ ih => exact ih.cons_plain hc
  | short letter c hc _ ih => exact ih.cons_short hc
  | unit ds n hunit _ ih => exact ⟨ih.plain_unit hunit, ih.waiting_unit hunit⟩

/-- A well-formed string that stands for no text is malformed where its
text is wanted. -/
theorem fails_of_not_spelled (h : Body body) (hno : ∀ text, ¬ Spelled body text) :
    Fails step .more start (encode (body ++ ['"'])) .malformed :=
  ((settles_of_body h).plain []).resolve_left fun ⟨text, hspelled⟩ => hno text hspelled

end TextToken

end Roster.Json
