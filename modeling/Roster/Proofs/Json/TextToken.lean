import Roster.Proofs.Json.Byte

/-!
# `Roster.Proofs.Json.TextToken`: strings are read by their grammar

The reader of a string whose text is wanted gets through exactly the
bodies that stand for a text, and hands that text back
(`TextToken.closes_iff`).

For the one direction a body is read piece by piece (`goes_of_spelled`).
For the other, `TextToken.Seen` says what the characters before a state
are: a body that is spelled already, and the start of an escape. The
digits of a code unit are judged when all four are there, so until then
they can be any characters.
-/

set_option autoImplicit false

namespace Roster.Json

open Text (encode IsAscii IsWide)

variable {b : UInt8} {c : Char} {ds body text : List Char} {n : Nat}

/-! ### Code units -/

/-- Digits are read as the number that they spell, and nothing but digits
is read. -/
theorem hexNumber?_encode (ds : List Char) (n : Nat) :
    (encode ds).foldlM (fun n b => (Text.hexValue? b).map (16 * n + ·)) n =
      if ds.all Text.isHexDigit then
        some (ds.foldl (fun n d => 16 * n + Text.hexDigitValue d) n)
      else none := by
  induction ds generalizing n with
  | nil => rfl
  | cons d rest ih =>
    by_cases hascii : IsAscii d
    · rw [Text.encode_cons_ascii hascii, List.foldlM_cons, hexValue?_byte hascii]
      cases hd : Text.isHexDigit d with
      | false => simp [hd]
      | true =>
        simp only [if_true, Option.map_some, Option.bind_eq_bind, Option.bind_some, ih,
          List.all_cons, hd, Bool.true_and, List.foldl_cons]
    · -- The first byte of a wide character is no digit.
      obtain ⟨b, rest', hencode⟩ := List.exists_cons_of_ne_nil (Text.encodeChar_ne_nil d)
      have hb : IsWide b := Text.wide_of_mem_encodeChar hascii b (hencode ▸ List.mem_cons_self)
      have hd : Text.isHexDigit d = false :=
        Bool.eq_false_iff.mpr fun hdigit => hascii (isAscii_of_isHexDigit hdigit)
      rw [Text.encode_cons, hencode, List.cons_append, List.foldlM_cons, (unclassed_of_wide hb).hex]
      simp [hd]

/-- A code unit is four bytes. -/
theorem CodeUnit.encode_eq (h : CodeUnit ds n) : encode ds = ds.map byte :=
  Text.encode_of_ascii fun d hd => isAscii_of_isHexDigit (h.digits d hd)

/-- Four bytes that spell a number are a code unit. -/
theorem codeUnit_of_hexNumber? (hlength : (encode ds).length = 4)
    (hnumber : TextToken.hexNumber? (encode ds) = some n) : CodeUnit ds n := by
  rw [TextToken.hexNumber?, hexNumber?_encode] at hnumber
  split at hnumber
  · rename_i hall
    have hdigits : ∀ d ∈ ds, Text.isHexDigit d = true := List.all_eq_true.mp hall
    rw [Text.encode_of_ascii fun d hd => isAscii_of_isHexDigit (hdigits d hd),
      List.length_map] at hlength
    exact ⟨hlength, hdigits, (Option.some.inj hnumber).symm⟩
  · cases hnumber

/-- A code unit spells its number. -/
theorem CodeUnit.hexNumber? (h : CodeUnit ds n) :
    TextToken.hexNumber? (encode ds) = some n := by
  rw [TextToken.hexNumber?, hexNumber?_encode, if_pos (List.all_eq_true.mpr h.digits), ← h.value]

/-- A code unit has sixteen bits. -/
theorem CodeUnit.lt (h : CodeUnit ds n) : n < 0x10000 := by
  obtain ⟨hlength, hdigits, rfl⟩ := h
  match ds, hlength with
  | [d₁, d₂, d₃, d₄], _ =>
    have h₁ := hexDigitValue_lt (hdigits d₁ (by simp))
    have h₂ := hexDigitValue_lt (hdigits d₂ (by simp))
    have h₃ := hexDigitValue_lt (hdigits d₃ (by simp))
    have h₄ := hexDigitValue_lt (hdigits d₄ (by simp))
    simp only [List.foldl_cons, List.foldl_nil]
    omega

/-- A byte that stands for itself in a string. -/
structure PlainByte (b : UInt8) : Prop where
  quote : b ≠ byte '"'
  backslash : b ≠ byte '\\'
  control : ¬ b < 0x20

/-- A wide byte stands for itself in a string. -/
theorem plainByte_of_wide (h : IsWide b) : PlainByte b :=
  have hclass := unclassed_of_wide h
  ⟨hclass.ascii _ (by decide), hclass.ascii _ (by decide), hclass.control⟩

/-- A character that stands for itself has bytes that do. -/
theorem IsPlain.plainByte (h : IsPlain c) : ∀ b ∈ encode [c], PlainByte b := by
  rw [Text.encode_singleton]
  intro b hb
  by_cases hascii : IsAscii c
  · rw [Text.encodeChar_ascii hascii, List.mem_singleton] at hb
    subst hb
    refine ⟨fun heq => h.quote (Text.byte_inj hascii (by decide) heq),
      fun heq => h.backslash (Text.byte_inj hascii (by decide) heq), fun hlt => ?_⟩
    rw [UInt8.lt_iff_toNat_lt, Text.toNat_byte hascii] at hlt
    exact absurd h.control (Nat.not_le.mpr hlt)
  · exact plainByte_of_wide (Text.wide_of_mem_encodeChar hascii b hb)

/-- An ASCII character whose byte stands for itself does so too. -/
theorem isPlain_of_plainByte (hascii : IsAscii c) (h : PlainByte (byte c)) : IsPlain c where
  quote heq := h.quote (congrArg byte heq)
  backslash heq := h.backslash (congrArg byte heq)
  control := by
    have hle := h.control
    rw [UInt8.lt_iff_toNat_lt, Text.toNat_byte hascii] at hle
    exact Nat.not_lt.mp hle

/-- A character that is not ASCII stands for itself. -/
theorem isPlain_of_wide (hwide : ∀ b ∈ encode [c], IsWide b) : IsPlain c := by
  have hascii : ¬ IsAscii c := by
    intro h
    rw [Text.encode_singleton, Text.encodeChar_ascii h] at hwide
    exact Text.not_wide_byte h (hwide _ List.mem_cons_self)
  refine ⟨?_, ?_, ?_⟩
  · rintro rfl
    exact hascii (by decide)
  · rintro rfl
    exact hascii (by decide)
  · exact Nat.le_trans (by decide) (Nat.not_lt.mp hascii)

namespace TextToken

variable {t t' : TextToken} {gathered : List UInt8} {lead : Option Nat}

/-! ### Bodies are read -/

/-- A byte that stands for itself is gathered. -/
theorem step_plain (h : PlainByte b) (gathered : List UInt8) :
    step ⟨gathered, .plain⟩ b = .ok (.more ⟨b :: gathered, .plain⟩) := by
  simp only [step, if_neg h.quote, if_neg h.backslash, if_neg h.control]

/-- Bytes that stand for themselves are gathered. -/
theorem goes_plain {read : List UInt8} (h : ∀ b ∈ read, PlainByte b) (gathered : List UInt8) :
    Goes step .more ⟨gathered, .plain⟩ read ⟨read.reverse ++ gathered, .plain⟩ := by
  induction read generalizing gathered with
  | nil => exact .nil _
  | cons b rest ih =>
    obtain ⟨hb, hrest⟩ := List.forall_mem_cons.mp h
    rw [List.reverse_cons, List.append_assoc]
    exact .cons (step_plain hb gathered) (ih hrest (b :: gathered))

/-- A code unit is judged at the last of its four digits. -/
theorem codeUnit_judged (h : CodeUnit ds n) :
    ∃ front last middle, encode ds = front ++ [last] ∧
      Goes step .more ⟨gathered, .hex lead []⟩ front middle ∧
      step middle last = (unit ⟨gathered, .hex lead []⟩ lead n).map .more := by
  have hnumber := h.hexNumber?
  rw [h.encode_eq] at hnumber ⊢
  obtain ⟨hlength, _, _⟩ := h
  match ds, hlength with
  | [d₁, d₂, d₃, d₄], _ =>
    refine ⟨[byte d₁, byte d₂, byte d₃], byte d₄, ⟨gathered, .hex lead [byte d₃, byte d₂, byte d₁]⟩,
      rfl, .cons rfl (.cons rfl (.single rfl)), ?_⟩
    have hjudged : hexStep ⟨gathered, .hex lead [byte d₃, byte d₂, byte d₁]⟩ lead
        [byte d₄, byte d₃, byte d₂, byte d₁] = unit ⟨gathered, .hex lead []⟩ lead n := by
      rw [hexStep,
        if_neg (show ¬ [byte d₄, byte d₃, byte d₂, byte d₁].length < 4 from Nat.lt_irrefl 4),
        show hexNumber? [byte d₄, byte d₃, byte d₂, byte d₁].reverse = some n from hnumber]
      rfl
    exact congrArg (Except.map Progress.more) hjudged

/-- The four digits of a code unit are read. -/
theorem goes_of_codeUnit (h : CodeUnit ds n)
    (hunit : unit ⟨gathered, .hex lead []⟩ lead n = .ok t') :
    Goes step .more ⟨gathered, .hex lead []⟩ (encode ds) t' := by
  obtain ⟨front, last, middle, hds, hfront, hlast⟩ := codeUnit_judged h
  rw [hunit] at hlast
  rw [hds]
  exact hfront.snoc hlast

/-- A character is no surrogate. -/
theorem not_surrogate (c : Char) : isTrail c.toNat = false ∧ isLead c.toNat = false := by
  have hvalid : c.toNat < 0xD800 ∨ 0xDFFF < c.toNat ∧ c.toNat < 0x110000 := c.valid
  simp only [isTrail, isLead, Bool.and_eq_false_iff, decide_eq_false_iff_not]
  omega

/-- A code unit that is no surrogate stands for a character. -/
theorem goes_unit (h : CodeUnit ds c.toNat) :
    Goes step .more ⟨gathered, .plain⟩ (encode ('\\' :: 'u' :: ds))
      (push ⟨gathered, .plain⟩ c) := by
  rw [Text.encode_cons_ascii (by decide), Text.encode_cons_ascii (by decide)]
  refine .cons rfl (.cons rfl (goes_of_codeUnit h ?_))
  obtain ⟨htrail, hlead⟩ := not_surrogate c
  simp only [unit, htrail, hlead, Char.ofNat_toNat]
  rfl

/-- Two surrogates stand for a character. -/
theorem goes_pair {es : List Char} {lead trail : Nat} (hlead : CodeUnit ds lead)
    (hleads : 0xD800 ≤ lead ∧ lead ≤ 0xDBFF) (htrail : CodeUnit es trail)
    (htrails : 0xDC00 ≤ trail ∧ trail ≤ 0xDFFF)
    (hc : c.toNat = 0x10000 + (lead - 0xD800) * 0x400 + (trail - 0xDC00)) :
    Goes step .more ⟨gathered, .plain⟩ (encode ('\\' :: 'u' :: (ds ++ '\\' :: 'u' :: es)))
      (push ⟨gathered, .plain⟩ c) := by
  have hisLead : isLead lead = true := by simpa [isLead] using hleads
  have hnotTrail : isTrail lead = false := by
    simp only [isTrail, Bool.and_eq_false_iff, decide_eq_false_iff_not]
    omega
  have hisTrail : isTrail trail = true := by simpa [isTrail] using htrails
  have hchar : ofSurrogates lead trail = c := by
    rw [ofSurrogates, ← hc, Char.ofNat_toNat]
  have hfirst : unit ⟨gathered, .hex none []⟩ none lead = .ok ⟨gathered, .partnerSlash lead⟩ := by
    simp only [unit, hnotTrail, hisLead]
    rfl
  have hsecond : unit ⟨gathered, .hex (some lead) []⟩ (some lead) trail =
      .ok (push ⟨gathered, .plain⟩ c) := by
    simp only [unit, hisTrail, if_true, hchar]
    rfl
  have hmark : Goes step .more ⟨gathered, .partnerSlash lead⟩ [byte '\\', byte 'u']
      ⟨gathered, .hex (some lead) []⟩ := .cons rfl (.single rfl)
  rw [Text.encode_cons_ascii (by decide), Text.encode_cons_ascii (by decide), Text.encode_append,
    Text.encode_cons_ascii (by decide), Text.encode_cons_ascii (by decide)]
  exact .cons rfl (.cons rfl ((goes_of_codeUnit hlead hfirst).append
    (hmark.append (goes_of_codeUnit htrail hsecond))))

/-- A body that stands for a text is read, and the bytes of the text are
gathered. -/
theorem goes_of_spelled (h : Spelled body text) (gathered : List UInt8) :
    Goes step .more ⟨gathered, .plain⟩ (encode body)
      ⟨(encode text).reverse ++ gathered, .plain⟩ := by
  -- Each piece of the body adds its character to what is gathered.
  have hadd : ∀ (c : Char) (text : List Char) (gathered : List UInt8),
      (encode (c :: text)).reverse ++ gathered =
        (encode text).reverse ++ (push ⟨gathered, .plain⟩ c).bytes := by
    intro c text gathered
    rw [Text.encode_cons, List.reverse_append, List.append_assoc]
    rfl
  induction h generalizing gathered with
  | nil => exact .nil _
  | @plain body text c hc _ ih =>
    rw [hadd, show c :: body = [c] ++ body from rfl, Text.encode_append]
    refine (goes_plain hc.plainByte gathered).append ?_
    rw [Text.encode_singleton]
    exact ih _
  | @short body text letter c hc _ ih =>
    have hletter := isAscii_of_shortEscape hc
    have hshort := (shortEscape?_byte hletter).mpr hc
    have hmark : byte letter ≠ byte 'u' := by
      intro heq
      rw [heq] at hshort
      cases hshort
    rw [hadd, Text.encode_cons_ascii (by decide), Text.encode_cons_ascii hletter]
    refine .cons rfl (.cons ?_ (ih _))
    simp only [step, if_neg hmark, hshort]
    rfl
  | @unit body text ds c hunit _ ih =>
    rw [hadd, show '\\' :: 'u' :: (ds ++ body) = ('\\' :: 'u' :: ds) ++ body from rfl,
      Text.encode_append]
    exact (goes_unit hunit).append (ih _)
  | @pair body text ds es lead trail c hlead hleads htrail htrails hc _ ih =>
    rw [hadd, show '\\' :: 'u' :: (ds ++ '\\' :: 'u' :: (es ++ body)) =
      ('\\' :: 'u' :: (ds ++ '\\' :: 'u' :: es)) ++ body by simp, Text.encode_append]
    exact (goes_pair hlead hleads htrail htrails hc).append (ih _)

/-! ### Nothing else is read -/

/-- What has been read of an escape. -/
def Pending : Escape → List Char → Prop
  | .plain, tail => tail = []
  | .begun, tail => tail = ['\\']
  | .hex none digits, tail =>
    ∃ ds, tail = '\\' :: 'u' :: ds ∧ digits.length < 4 ∧ digits.reverse = encode ds
  | .hex (some lead) digits, tail =>
    ∃ es ds, tail = '\\' :: 'u' :: (es ++ '\\' :: 'u' :: ds) ∧ CodeUnit es lead ∧
      isLead lead = true ∧ digits.length < 4 ∧ digits.reverse = encode ds
  | .partnerSlash lead, tail =>
    ∃ es, tail = '\\' :: 'u' :: es ∧ CodeUnit es lead ∧ isLead lead = true
  | .partnerMark lead, tail =>
    ∃ es, tail = '\\' :: 'u' :: (es ++ ['\\']) ∧ CodeUnit es lead ∧ isLead lead = true

/-- What has been read of a string: a body that stands for the text that
is gathered, and perhaps the start of an escape. -/
def Seen (t : TextToken) (read : List Char) : Prop :=
  ∃ body text tail, read = body ++ tail ∧ Spelled body text ∧
    t.bytes.reverse = encode text ∧ Pending t.escape tail

/-- The string after one more character of a body. -/
theorem seen_push {piece : List Char} (h : Spelled body text)
    (hgathered : gathered.reverse = encode text) (hpiece : Spelled piece [c]) :
    (push ⟨gathered, .plain⟩ c).Seen (body ++ piece) := by
  refine ⟨body ++ piece, text ++ [c], [], by simp, h.append hpiece, ?_, rfl⟩
  show ((String.utf8EncodeChar c).reverse ++ gathered).reverse = _
  rw [List.reverse_append, List.reverse_reverse, hgathered, Text.encode_append,
    Text.encode_singleton]

/-- After one more digit of a code unit there are fewer than four, or the
unit is complete. -/
theorem hexStep_cases {digits : List UInt8} (hlength : digits.length < 4)
    (hdigits : digits.reverse = encode ds) (hascii : IsAscii c)
    (hstep : hexStep t lead (byte c :: digits) = .ok t') :
    (t' = ⟨t.bytes, .hex lead (byte c :: digits)⟩ ∧ (byte c :: digits).length < 4 ∧
      (byte c :: digits).reverse = encode (ds ++ [c])) ∨
    ∃ n, CodeUnit (ds ++ [c]) n ∧ t.unit lead n = .ok t' := by
  have hread : (byte c :: digits).reverse = encode (ds ++ [c]) := by
    rw [List.reverse_cons, hdigits, Text.encode_append, Text.encode_singleton,
      Text.encodeChar_ascii hascii]
  unfold hexStep at hstep
  split at hstep
  · rename_i hfew
    cases hstep
    exact .inl ⟨rfl, hfew, hread⟩
  · rename_i hfull
    rw [hread] at hstep
    split at hstep
    · rename_i n hnumber
      refine .inr ⟨n, codeUnit_of_hexNumber? ?_ hnumber, hstep⟩
      rw [← hread, List.length_reverse]
      simp only [List.length_cons] at hfull ⊢
      omega
    · cases hstep

/-- The number of a character that was given by it. -/
theorem toNat_ofNat_of_isValidChar (h : n.isValidChar) : (Char.ofNat n).toNat = n := by
  rw [Char.ofNat, dif_pos h]
  rfl

/-- A code unit is a surrogate that waits for its partner, or it stands
for a character. -/
theorem unit_none_cases (hlt : n < 0x10000) (hunit : unit t none n = .ok t') :
    (isLead n = true ∧ t' = ⟨t.bytes, .partnerSlash n⟩) ∨
    ∃ c : Char, c.toNat = n ∧ t' = t.push c := by
  simp only [unit] at hunit
  split at hunit
  · cases hunit
  · rename_i htrail
    split at hunit
    · rename_i hlead
      cases hunit
      exact .inl ⟨hlead, rfl⟩
    · rename_i hlead
      cases hunit
      refine .inr ⟨Char.ofNat n, ?_, rfl⟩
      simp only [isTrail, isLead, Bool.and_eq_true, decide_eq_true_eq] at htrail hlead
      refine toNat_ofNat_of_isValidChar ?_
      unfold Nat.isValidChar
      omega

/-- Two surrogates stand for a character. -/
theorem unit_some_cases {lead : Nat} (hlead : isLead lead = true)
    (hunit : unit t (some lead) n = .ok t') :
    ∃ c : Char, isTrail n = true ∧
      c.toNat = 0x10000 + (lead - 0xD800) * 0x400 + (n - 0xDC00) ∧ t' = t.push c := by
  simp only [unit] at hunit
  split at hunit
  · rename_i htrail
    refine ⟨ofSurrogates lead n, htrail, ?_, (Except.ok.inj hunit).symm⟩
    simp only [isTrail, isLead, Bool.and_eq_true, decide_eq_true_eq] at htrail hlead
    rw [ofSurrogates, toNat_ofNat_of_isValidChar]
    unfold Nat.isValidChar
    omega
  · cases hunit

/-- One more ASCII character of a string. -/
theorem seen_step {read : List Char} (h : t.Seen read) (hascii : IsAscii c)
    (hstep : t.step (byte c) = .ok (.more t')) : t'.Seen (read ++ [c]) := by
  obtain ⟨body, text, tail, rfl, hspelled, hgathered, hpending⟩ := h
  obtain ⟨gathered, escape⟩ := t
  have hbyte : ∀ {d : Char}, IsAscii d → byte c = byte d → c = d :=
    fun hd => Text.byte_inj hascii hd
  have hextend : ∀ {escape : Escape}, Pending escape (tail ++ [c]) →
      Seen ⟨gathered, escape⟩ (body ++ tail ++ [c]) := fun hpending =>
    ⟨body, text, tail ++ [c], List.append_assoc .., hspelled, hgathered, hpending⟩
  cases escape with
  | plain =>
    obtain rfl : tail = [] := hpending
    simp only [step] at hstep
    split at hstep
    · split at hstep <;> cases hstep
    · rename_i hquote
      split at hstep
      · rename_i hslash
        cases hstep
        exact hextend (congrArg (fun c => [c]) (hbyte (by decide) hslash))
      · rename_i hslash
        split at hstep
        · cases hstep
        · rename_i hcontrol
          cases hstep
          have hplain := isPlain_of_plainByte hascii ⟨hquote, hslash, hcontrol⟩
          rw [List.append_nil]
          have hseen := seen_push hspelled hgathered (.plain c hplain .nil)
          rwa [push, Text.encodeChar_ascii hascii] at hseen
  | begun =>
    obtain rfl : tail = ['\\'] := hpending
    simp only [step] at hstep
    split at hstep
    · rename_i hmark
      cases hstep
      obtain rfl := hbyte (by decide) hmark
      exact hextend ⟨[], rfl, by decide, rfl⟩
    · split at hstep
      · rename_i d hshort
        cases hstep
        rw [List.append_assoc]
        exact seen_push hspelled hgathered
          (.short c d ((shortEscape?_byte hascii).mp hshort) .nil)
      · cases hstep
  | hex lead digits =>
    simp only [step] at hstep
    obtain ⟨t'', hhex, hmore⟩ := answer_of_map hstep
    cases hmore
    cases lead with
    | none =>
      obtain ⟨ds, rfl, hlength, hdigits⟩ := hpending
      rcases hexStep_cases hlength hdigits hascii hhex with ⟨rfl, hfew, hread⟩ | ⟨n, hn, hunit⟩
      · exact hextend ⟨ds ++ [c], rfl, hfew, hread⟩
      · -- With four digits the unit waits for its partner, or it is a character.
        rcases unit_none_cases hn.lt hunit with ⟨hlead, rfl⟩ | ⟨d, rfl, rfl⟩
        · exact hextend ⟨ds ++ [c], rfl, hn, hlead⟩
        · show (push ⟨gathered, .plain⟩ d).Seen _
          have hseen := seen_push hspelled hgathered (.unit (ds ++ [c]) d hn .nil)
          simpa using hseen
    | some lead =>
      obtain ⟨es, ds, rfl, hes, hlead, hlength, hdigits⟩ := hpending
      rcases hexStep_cases hlength hdigits hascii hhex with ⟨rfl, hfew, hread⟩ | ⟨n, hn, hunit⟩
      · exact hextend ⟨es, ds ++ [c], by simp, hes, hlead, hfew, hread⟩
      · -- Both units together are one character.
        obtain ⟨d, htrail, hd, rfl⟩ := unit_some_cases hlead hunit
        simp only [isTrail, isLead, Bool.and_eq_true, decide_eq_true_eq] at htrail hlead
        show (push ⟨gathered, .plain⟩ d).Seen _
        have hseen := seen_push hspelled hgathered
          (.pair es (ds ++ [c]) lead n d hes hlead hn htrail hd .nil)
        simpa using hseen
  | partnerSlash lead =>
    obtain ⟨es, rfl, hes, hlead⟩ := hpending
    simp only [step] at hstep
    split at hstep
    · rename_i hslash
      cases hstep
      obtain rfl := hbyte (by decide) hslash
      exact hextend ⟨es, rfl, hes, hlead⟩
    · cases hstep
  | partnerMark lead =>
    obtain ⟨es, rfl, hes, hlead⟩ := hpending
    simp only [step] at hstep
    split at hstep
    · rename_i hmark
      cases hstep
      obtain rfl := hbyte (by decide) hmark
      exact hextend ⟨es, [], by simp, hes, hlead, by decide, rfl⟩
    · cases hstep

/-- A wide byte where it is read: it is gathered, or it is taken for one
of the first three digits of a code unit. -/
theorem step_wide (h : IsWide b) {result : Progress TextToken String}
    (hstep : t.step b = .ok result) :
    (t.escape = .plain ∧ result = .more ⟨b :: t.bytes, .plain⟩) ∨
    ∃ lead digits, t.escape = .hex lead digits ∧ (b :: digits).length < 4 ∧
      result = .more ⟨t.bytes, .hex lead (b :: digits)⟩ := by
  obtain ⟨gathered, escape⟩ := t
  have hclass := unclassed_of_wide h
  cases escape with
  | plain =>
    rw [step_plain (plainByte_of_wide h)] at hstep
    cases hstep
    exact .inl ⟨rfl, rfl⟩
  | begun =>
    simp only [step, if_neg (hclass.ascii 'u' (by decide)), hclass.shortEscape] at hstep
    cases hstep
  | hex lead digits =>
    simp only [step, hexStep] at hstep
    split at hstep
    · rename_i hfew
      cases hstep
      exact .inr ⟨lead, digits, rfl, hfew, rfl⟩
    · -- It is no digit, so four with it among them are no code unit.
      have hnone : hexNumber? (b :: digits).reverse = none := by
        rw [List.reverse_cons, hexNumber?, List.foldlM_append]
        cases digits.reverse.foldlM (fun n b => (Text.hexValue? b).map (16 * n + ·)) 0 with
        | none => rfl
        | some n => simp [hclass.hex]
      rw [hnone] at hstep
      cases hstep
  | partnerSlash lead =>
    simp only [step, if_neg (hclass.ascii '\\' (by decide))] at hstep
    cases hstep
  | partnerMark lead =>
    simp only [step, if_neg (hclass.ascii 'u' (by decide))] at hstep
    cases hstep

/-- Wide bytes are gathered, or are taken for digits. -/
theorem goes_wide {read : List UInt8} (hwide : ∀ b ∈ read, IsWide b)
    (h : Goes step .more t read t') :
    read = [] ∨ (t.escape = .plain ∧ t' = ⟨read.reverse ++ t.bytes, .plain⟩) ∨
    ∃ lead digits, t.escape = .hex lead digits ∧ (read.reverse ++ digits).length < 4 ∧
      t' = ⟨t.bytes, .hex lead (read.reverse ++ digits)⟩ := by
  induction h with
  | nil => exact .inl rfl
  | @cons s middle s' b rest hstep hrest ih =>
    obtain ⟨hb, hwide⟩ := List.forall_mem_cons.mp hwide
    -- No byte leads from one of the two kinds of state to the other.
    rcases step_wide hb hstep with ⟨hplain, heq⟩ | ⟨lead, digits, hhex, hfew, heq⟩
    · cases heq
      rcases ih hwide with rfl | ⟨_, rfl⟩ | ⟨_, _, hhex, _⟩
      · cases hrest
        exact .inr (.inl ⟨hplain, rfl⟩)
      · exact .inr (.inl ⟨hplain, by simp⟩)
      · cases hhex
    · cases heq
      rcases ih hwide with rfl | ⟨hplain, _⟩ | ⟨_, _, heq, hmore, rfl⟩
      · cases hrest
        exact .inr (.inr ⟨lead, digits, hhex, hfew, rfl⟩)
      · cases hplain
      · cases heq
        exact .inr (.inr ⟨lead, digits, hhex, by simpa using hmore, by simp⟩)

/-- One more character of a string that is not ASCII. -/
theorem seen_wide {read : List Char} (h : t.Seen read) (hwide : ∀ b ∈ encode [c], IsWide b)
    (hsome : encode [c] ≠ []) (hgoes : Goes step .more t (encode [c]) t') :
    t'.Seen (read ++ [c]) := by
  obtain ⟨body, text, tail, rfl, hspelled, hgathered, hpending⟩ := h
  rcases goes_wide hwide hgoes with hnil | ⟨hplain, rfl⟩ | ⟨lead, digits, hhex, hfew, rfl⟩
  · exact absurd hnil hsome
  · rw [hplain] at hpending
    obtain rfl : tail = [] := hpending
    rw [List.append_nil, Text.encode_singleton]
    exact seen_push hspelled hgathered (.plain c (isPlain_of_wide hwide) .nil)
  · -- The code unit will be refused at its fourth byte; until then it waits.
    rw [hhex] at hpending
    refine ⟨body, text, tail ++ [c], List.append_assoc .., hspelled, hgathered, ?_⟩
    cases lead with
    | none =>
      obtain ⟨ds, rfl, _, hdigits⟩ := hpending
      exact ⟨ds ++ [c], rfl, hfew, by simp [hdigits]⟩
    | some lead =>
      obtain ⟨es, ds, rfl, hes, hlead, _, hdigits⟩ := hpending
      exact ⟨es, ds ++ [c], by simp, hes, hlead, hfew, by simp [hdigits]⟩

/-- What has been read of a string when its reader is in some state. -/
theorem seen_of_goes {read : List Char} (h : Goes step .more start (encode read) t) :
    t.Seen read := by
  have hstart : start.Seen [] := ⟨[], [], [], rfl, .nil, rfl, rfl⟩
  refine Goes.invariant Seen hstart ?_ ?_ h
  · exact fun _ _ _ _ hascii hseen hstep => seen_step hseen hascii hstep
  · exact fun _ _ _ _ hwide hsome hseen hgoes => seen_wide hseen hwide hsome hgoes

/-- A string closes with a text exactly if this is what its body stands
for. -/
theorem closes_iff {body : List Char} {s : String} (hascii : IsAscii c) :
    (∃ t, Goes step .more start (encode body) t ∧ t.step (byte c) = .ok (.done s)) ↔
      c = '"' ∧ Spelled body s.toList := by
  constructor
  · rintro ⟨t, hgoes, hstep⟩
    obtain ⟨body, text, tail, rfl, hspelled, hgathered, hpending⟩ := seen_of_goes hgoes
    obtain ⟨gathered, escape⟩ := t
    cases escape with
    | plain =>
      obtain rfl : tail = [] := hpending
      simp only [step] at hstep
      split at hstep
      · rename_i hquote
        split at hstep
        · rename_i s' hread
          cases hstep
          -- The bytes that were gathered are those of one text only.
          rw [hgathered, Text.ofUtf8?_eq_some_iff, Text.utf8_eq_encode] at hread
          obtain rfl := Text.encode_injective hread
          rw [List.append_nil]
          exact ⟨Text.byte_inj hascii (by decide) hquote, hspelled⟩
        · cases hstep
      · split at hstep
        · cases hstep
        · split at hstep <;> cases hstep
    | begun =>
      simp only [step] at hstep
      split at hstep
      · cases hstep
      · split at hstep <;> cases hstep
    | hex lead digits =>
      obtain ⟨_, _, hmore⟩ := answer_of_map hstep
      cases hmore
    | partnerSlash lead =>
      simp only [step] at hstep
      split at hstep <;> cases hstep
    | partnerMark lead =>
      simp only [step] at hstep
      split at hstep <;> cases hstep
  · rintro ⟨rfl, h⟩
    refine ⟨_, goes_of_spelled h [], ?_⟩
    have hread : Text.ofUtf8? (encode s.toList).reverse.reverse = some s := by
      rw [List.reverse_reverse, ← Text.utf8_eq_encode, Text.ofUtf8?_utf8]
    simp only [step, if_true, List.append_nil, hread]

end TextToken

end Roster.Json
