import Mathlib.Data.List.Forall2
import Mathlib.Data.List.Induction
import Roster.Proofs.Text.CodePoints

/-!
# `Roster.Proofs.Text.WellFormed`: which bytes are a text

Whether bytes are a text is decided by reading them back. Here it is said of
the bytes alone. `sequenceTable` is the table of the byte sequences that are
one character. It has no overlong form (`C0`, `C1`, `E0 80`, `F0 80`), no
surrogate (`ED A0`), nothing beyond the last code point (`F4 90`, `F5`), and
nothing that is cut short. `IsUtf8` says of bytes that they are such
sequences one after the other, and which code points these spell.

A character is written as a sequence of the table, and spells its code point
(`isSequence_encodeChar`, `spelledPoint_encodeChar`). Conversely every
sequence of the table is a character (`exists_char_of_isSequence`): what it
spells is a code point of that width (`IsSequence.isSpelling`), and its
bytes are the digits of that code point (`continuation_spelledFrom`). So
`IsUtf8` holds of the bytes of texts and of no others
(`ofUtf8?_eq_some_iff_isUtf8`).
-/

set_option autoImplicit false

namespace Roster.Text

/-! ### The table -/

/-- The bytes that can follow a lead byte. -/
def following : Nat × Nat :=
  (0x80, 0xBF)

/-- The well-formed sequences, as the ranges of their bytes. Only the first
byte after the lead byte can have a narrower range than `following`. -/
def sequenceTable : List (List (Nat × Nat)) :=
  [[(0x00, 0x7F)],
   [(0xC2, 0xDF), following],
   [(0xE0, 0xE0), (0xA0, 0xBF), following],
   [(0xE1, 0xEC), following, following],
   [(0xED, 0xED), (0x80, 0x9F), following],
   [(0xEE, 0xEF), following, following],
   [(0xF0, 0xF0), (0x90, 0xBF), following, following],
   [(0xF1, 0xF3), following, following, following],
   [(0xF4, 0xF4), (0x80, 0x8F), following, following]]

/-- Whether a byte lies in a range, both ends included. -/
def LiesIn (b : UInt8) (range : Nat × Nat) : Prop :=
  range.1 ≤ b.toNat ∧ b.toNat ≤ range.2

instance (b : UInt8) (range : Nat × Nat) : Decidable (LiesIn b range) :=
  inferInstanceAs (Decidable (_ ∧ _))

/-- Whether bytes are a well-formed sequence. -/
def IsSequence (bytes : List UInt8) : Prop :=
  ∃ ranges ∈ sequenceTable, List.Forall₂ LiesIn bytes ranges

instance (bytes : List UInt8) : Decidable (IsSequence bytes) :=
  inferInstanceAs (Decidable (∃ ranges ∈ sequenceTable, List.Forall₂ LiesIn bytes ranges))

-- An overlong form, a surrogate, a number beyond the last code point, and a character cut short.
example : ¬ IsSequence [0xC0, 0x80] ∧ ¬ IsSequence [0xED, 0xA0, 0x80] ∧
    ¬ IsSequence [0xF4, 0x90, 0x80, 0x80] ∧ ¬ IsSequence [0xE2, 0x82] := by decide

/-- The number that some bytes after a lead byte make of the number that
is spelled before them, with six bits from each. -/
def spelledFrom (v : Nat) (tail : List UInt8) : Nat :=
  tail.foldl (fun v b => v * 64 + (b.toNat - 0x80)) v

/-- The code point that a sequence spells. Of the lead byte the mark is
left out, which tells how many bytes follow. -/
def spelledPoint : List UInt8 → Nat
  | [] => 0
  | b :: tail => spelledFrom (b.toNat - mark tail.length) tail

/-- Bytes are well-formed sequences one after the other, and these are the
code points that they spell. -/
inductive IsUtf8 : List UInt8 → List Nat → Prop
  | nil : IsUtf8 [] []
  | cons {front bytes : List UInt8} {points : List Nat} (h : IsSequence front)
      (rest : IsUtf8 bytes points) : IsUtf8 (front ++ bytes) (spelledPoint front :: points)

/-! ### The table by the number of bytes -/

variable {a b c d : UInt8}

/-- The sequences of one byte. -/
theorem isSequence_one_iff : IsSequence [a] ↔ a.toNat < 0x80 := by
  simp only [IsSequence, sequenceTable, List.mem_cons, List.not_mem_nil, or_false,
    exists_eq_or_imp, exists_eq_left, List.forall₂_cons, List.forall₂_nil_left_iff,
    List.forall₂_nil_right_iff, reduceCtorEq, List.cons_ne_self, and_false, and_true, or_self,
    LiesIn]
  omega

/-- The sequences of two bytes. -/
theorem isSequence_two_iff :
    IsSequence [a, b] ↔ 0xC2 ≤ a.toNat ∧ a.toNat ≤ 0xDF ∧ LiesIn b following := by
  simp [IsSequence, sequenceTable, LiesIn, and_assoc]

/-- The sequences of three bytes. The second byte keeps out overlong forms
and surrogates. -/
theorem isSequence_three_iff :
    IsSequence [a, b, c] ↔ 0xE0 ≤ a.toNat ∧ a.toNat ≤ 0xEF ∧ LiesIn b following ∧
      LiesIn c following ∧ (a.toNat = 0xE0 → 0xA0 ≤ b.toNat) ∧
      (a.toNat = 0xED → b.toNat ≤ 0x9F) := by
  simp only [IsSequence, sequenceTable, List.mem_cons, List.not_mem_nil, or_false, false_or,
    exists_eq_or_imp, exists_eq_left, List.forall₂_cons, List.forall₂_nil_left_iff,
    List.forall₂_nil_right_iff, reduceCtorEq, List.cons_ne_self, and_false, and_true, or_self,
    LiesIn, following]
  omega

/-- The sequences of four bytes. The second byte keeps out overlong forms
and what is beyond the last code point. -/
theorem isSequence_four_iff :
    IsSequence [a, b, c, d] ↔ 0xF0 ≤ a.toNat ∧ a.toNat ≤ 0xF4 ∧ LiesIn b following ∧
      LiesIn c following ∧ LiesIn d following ∧ (a.toNat = 0xF0 → 0x90 ≤ b.toNat) ∧
      (a.toNat = 0xF4 → b.toNat ≤ 0x8F) := by
  simp only [IsSequence, sequenceTable, List.mem_cons, List.not_mem_nil, or_false, false_or,
    exists_eq_or_imp, exists_eq_left, List.forall₂_cons, List.forall₂_nil_right_iff, reduceCtorEq,
    List.cons_ne_self, and_false, and_true, LiesIn, following]
  omega

/-! ### Bytes as digits -/

theorem spelledFrom_append_singleton (v : Nat) (tail : List UInt8) (b : UInt8) :
    spelledFrom v (tail ++ [b]) = spelledFrom v tail * 64 + (b.toNat - 0x80) := by
  rw [spelledFrom, List.foldl_append]
  rfl

/-- The further bytes of a character spell the last digits of its code
point. -/
theorem spelledFrom_continuation (w k v : Nat) :
    spelledFrom w (continuation k v) = w * 64 ^ k + v % 64 ^ k := by
  induction k generalizing v with
  | zero => simp [continuation, spelledFrom, Nat.mod_one]
  | succ k ih =>
    have hlt : v % 64 + 0x80 < 256 := by omega
    have hpow : w * 64 ^ (k + 1) = w * 64 ^ k * 64 := by rw [Nat.pow_succ, Nat.mul_assoc]
    rw [continuation, spelledFrom_append_singleton, ih, UInt8.toNat_ofNat_of_lt' hlt, hpow,
      Nat.pow_succ', Nat.mod_mul]
    omega

/-- The bytes after a lead byte are the digits of what they spell, and what
is spelled before them is left over. -/
theorem continuation_spelledFrom (w : Nat) {tail : List UInt8}
    (h : ∀ b ∈ tail, LiesIn b following) :
    continuation tail.length (spelledFrom w tail) = tail ∧
      spelledFrom w tail / 64 ^ tail.length = w := by
  induction tail using List.reverseRecOn with
  | nil => exact ⟨rfl, by simp [spelledFrom]⟩
  | append_singleton front b ih =>
    obtain ⟨hdigits, hrest⟩ := ih fun x hx => h x (List.mem_append_left _ hx)
    obtain ⟨hle, hge⟩ : 0x80 ≤ b.toNat ∧ b.toNat ≤ 0xBF :=
      h b (List.mem_append_right _ List.mem_cons_self)
    rw [spelledFrom_append_singleton, List.length_append, List.length_singleton]
    -- The last byte is the last digit, and the others are those of what is left.
    have hdiv : (spelledFrom w front * 64 + (b.toNat - 0x80)) / 64 = spelledFrom w front := by
      omega
    have hmod : (spelledFrom w front * 64 + (b.toNat - 0x80)) % 64 + 0x80 = b.toNat := by
      omega
    refine ⟨?_, ?_⟩
    · rw [continuation, hdiv, hmod, hdigits, UInt8.ofNat_toNat]
    · rw [Nat.pow_succ', ← Nat.div_div_eq_div_mul, hdiv, hrest]

/-! ### A character is a sequence of the table -/

/-- What a character's bytes spell is its code point. -/
theorem spelledPoint_encodeChar (c : Char) : spelledPoint (String.utf8EncodeChar c) = c.toNat := by
  obtain ⟨k, hk, hbytes⟩ := exists_isWidth c
  rw [hbytes, spelledPoint, length_continuation, UInt8.toNat_ofNat_of_lt' hk.lead_lt_size, lead,
    Nat.add_sub_cancel, spelledFrom_continuation]
  exact Nat.div_add_mod' _ _

/-- A character is written as a sequence of the table. -/
theorem isSequence_encodeChar (c : Char) : IsSequence (String.utf8EncodeChar c) := by
  obtain ⟨k, ⟨hle, hlt, hlimit⟩, hbytes⟩ := exists_isWidth c
  have hvalid : c.toNat < 0xD800 ∨ 0xDFFF < c.toNat ∧ c.toNat < 0x110000 := c.valid
  rw [hbytes]
  generalize c.toNat = v at hlt hlimit hvalid
  -- The limits of the width bound the lead byte, and the second one where the row is narrow.
  match k, hle with
  | 0, _ =>
    simp only [limit] at hlt
    refine isSequence_one_iff.mpr ?_
    simp only [lead, mark, UInt8.toNat_ofNat']
    omega
  | 1, _ =>
    have hlow := hlimit 0 (by decide)
    simp only [limit] at hlt hlow
    refine isSequence_two_iff.mpr ?_
    simp only [lead, mark, LiesIn, following, UInt8.toNat_ofNat']
    omega
  | 2, _ =>
    have hlow := hlimit 1 (by decide)
    simp only [limit] at hlt hlow
    refine isSequence_three_iff.mpr ?_
    simp only [lead, mark, LiesIn, following, UInt8.toNat_ofNat']
    omega
  | 3, _ =>
    have hlow := hlimit 2 (by decide)
    simp only [limit] at hlow
    refine isSequence_four_iff.mpr ?_
    simp only [lead, mark, LiesIn, following, UInt8.toNat_ofNat']
    omega

/-! ### A sequence of the table is a character -/

/-- A lead byte and the bytes after it spell a code point that is written
with so many bytes. -/
structure IsSpelling (b : UInt8) (tail : List UInt8) : Prop where
  tail_liesIn : ∀ x ∈ tail, LiesIn x following
  mark_le : mark tail.length ≤ b.toNat
  isWidth : IsWidth tail.length (spelledPoint (b :: tail))
  isValidChar : (spelledPoint (b :: tail)).isValidChar

-- By the number of bytes: the ranges of the first two bytes keep what is spelled within the
-- limits of the width, and out of the surrogates.

theorem isSpelling_one (h : IsSequence [a]) : IsSpelling a [] := by
  have ha := isSequence_one_iff.mp h
  have hwidth : IsWidth 0 (spelledPoint [a]) := ⟨by decide, ha, by simp⟩
  exact ⟨by simp, Nat.zero_le _, hwidth, Or.inl (Nat.lt_trans ha (by decide))⟩

theorem isSpelling_two (h : IsSequence [a, b]) : IsSpelling a [b] := by
  obtain ⟨hle, hge, hb⟩ := isSequence_two_iff.mp h
  have hfollowing : ∀ x ∈ [b], LiesIn x following := by simpa using hb
  have hspelled : spelledPoint [a, b] = (a.toNat - 0xC0) * 64 + (b.toNat - 0x80) := rfl
  simp only [LiesIn, following] at hb
  have hlow : 0x80 ≤ spelledPoint [a, b] := by omega
  have hhigh : spelledPoint [a, b] < 0x800 := by omega
  have hwidth : IsWidth 1 (spelledPoint [a, b]) := .of_limit_le (by decide) hhigh hlow
  have hmark : mark 1 ≤ a.toNat := Nat.le_trans (by decide) hle
  exact ⟨hfollowing, hmark, hwidth, Or.inl (Nat.lt_trans hhigh (by decide))⟩

theorem isSpelling_three (h : IsSequence [a, b, c]) : IsSpelling a [b, c] := by
  obtain ⟨hle, hge, hb, hc, hoverlong, hsurrogate⟩ := isSequence_three_iff.mp h
  have hfollowing : ∀ x ∈ [b, c], LiesIn x following := by simpa using ⟨hb, hc⟩
  have hspelled : spelledPoint [a, b, c] =
      ((a.toNat - 0xE0) * 64 + (b.toNat - 0x80)) * 64 + (c.toNat - 0x80) := rfl
  simp only [LiesIn, following] at hb hc
  have hlow : 0x800 ≤ spelledPoint [a, b, c] := by omega
  have hhigh : spelledPoint [a, b, c] < 0x10000 := by omega
  have hwidth : IsWidth 2 (spelledPoint [a, b, c]) := .of_limit_le (by decide) hhigh hlow
  have hvalid : spelledPoint [a, b, c] < 0xD800 ∨ 0xDFFF < spelledPoint [a, b, c] := by omega
  exact ⟨hfollowing, hle, hwidth,
    hvalid.imp_right fun hgt => ⟨hgt, Nat.lt_trans hhigh (by decide)⟩⟩

theorem isSpelling_four (h : IsSequence [a, b, c, d]) : IsSpelling a [b, c, d] := by
  obtain ⟨hle, hge, hb, hc, hd, hoverlong, hbeyond⟩ := isSequence_four_iff.mp h
  have hfollowing : ∀ x ∈ [b, c, d], LiesIn x following := by simpa using ⟨hb, hc, hd⟩
  have hspelled : spelledPoint [a, b, c, d] =
      (((a.toNat - 0xF0) * 64 + (b.toNat - 0x80)) * 64 + (c.toNat - 0x80)) * 64
        + (d.toNat - 0x80) := rfl
  simp only [LiesIn, following] at hb hc hd
  have hlow : 0x10000 ≤ spelledPoint [a, b, c, d] := by omega
  have hhigh : spelledPoint [a, b, c, d] < 0x110000 := by omega
  have hwidth : IsWidth 3 (spelledPoint [a, b, c, d]) := .of_limit_le (by decide) hhigh hlow
  exact ⟨hfollowing, hle, hwidth, Or.inr ⟨Nat.lt_of_lt_of_le (by decide) hlow, hhigh⟩⟩

/-- A sequence of the table is a spelling. -/
theorem IsSequence.isSpelling {bytes : List UInt8} (h : IsSequence bytes) :
    ∃ b tail, bytes = b :: tail ∧ IsSpelling b tail := by
  match bytes with
  | [] => simp [IsSequence, sequenceTable] at h
  | [a] => exact ⟨a, [], rfl, isSpelling_one h⟩
  | [a, b] => exact ⟨a, [b], rfl, isSpelling_two h⟩
  | [a, b, c] => exact ⟨a, [b, c], rfl, isSpelling_three h⟩
  | [a, b, c, d] => exact ⟨a, [b, c, d], rfl, isSpelling_four h⟩
  -- The rows have four ranges at most.
  | _ :: _ :: _ :: _ :: _ :: _ => simp [IsSequence, sequenceTable] at h

/-- A sequence of the table is how a character is written. -/
theorem exists_char_of_isSequence {bytes : List UInt8} (h : IsSequence bytes) :
    ∃ c, String.utf8EncodeChar c = bytes := by
  obtain ⟨b, tail, rfl, hspelling⟩ := h.isSpelling
  refine ⟨Char.ofNatAux _ hspelling.isValidChar, ?_⟩
  obtain ⟨k, hk, hbytes⟩ := exists_isWidth (Char.ofNatAux _ hspelling.isValidChar)
  have hpoint : (Char.ofNatAux _ hspelling.isValidChar).toNat = spelledPoint (b :: tail) := rfl
  rw [hpoint] at hk hbytes
  cases hspelling.isWidth.unique hk
  -- So the character is written with the digits of what is spelled, which are these bytes.
  obtain ⟨hdigits, hrest⟩ :=
    continuation_spelledFrom (b.toNat - mark tail.length) hspelling.tail_liesIn
  have hlead : lead tail.length (spelledPoint (b :: tail)) = b.toNat := by
    rw [lead, spelledPoint, hrest]
    exact Nat.sub_add_cancel hspelling.mark_le
  rw [hbytes, hlead, UInt8.ofNat_toNat, spelledPoint, hdigits]

/-! ### Texts -/

/-- The bytes of some characters are UTF-8. -/
theorem isUtf8_encode (cs : List Char) : IsUtf8 (encode cs) (cs.map Char.toNat) := by
  induction cs with
  | nil => exact .nil
  | cons c cs ih =>
    rw [encode_cons, List.map_cons, ← spelledPoint_encodeChar]
    exact .cons (isSequence_encodeChar c) ih

/-- What is UTF-8 is the bytes of some characters. -/
theorem IsUtf8.exists_encode {bytes : List UInt8} {points : List Nat} (h : IsUtf8 bytes points) :
    ∃ cs, encode cs = bytes ∧ cs.map Char.toNat = points := by
  induction h with
  | nil => exact ⟨[], rfl, rfl⟩
  | cons h _ ih =>
    obtain ⟨c, rfl⟩ := exists_char_of_isSequence h
    obtain ⟨cs, rfl, rfl⟩ := ih
    exact ⟨c :: cs, encode_cons c cs, by rw [List.map_cons, spelledPoint_encodeChar]⟩

/-- Bytes read as a text exactly when they are UTF-8 for its code points. -/
theorem ofUtf8?_eq_some_iff_isUtf8 {bytes : List UInt8} {s : String} :
    ofUtf8? bytes = some s ↔ IsUtf8 bytes (codePoints s) := by
  rw [ofUtf8?_eq_some_iff, utf8_eq_encode]
  constructor
  · rintro rfl
    exact isUtf8_encode s.toList
  · intro h
    obtain ⟨cs, rfl, hpoints⟩ := h.exists_encode
    have hchars : cs = s.toList :=
      List.map_injective_iff.mpr (fun _ _ => Char.toNat_inj.mp) hpoints
    rw [hchars]

/-- Bytes that are UTF-8 read as a text. -/
theorem IsUtf8.exists_text {bytes : List UInt8} {points : List Nat} (h : IsUtf8 bytes points) :
    ∃ s, ofUtf8? bytes = some s ∧ codePoints s = points := by
  obtain ⟨cs, rfl, rfl⟩ := h.exists_encode
  refine ⟨String.ofList cs, ofUtf8?_eq_some_iff.mpr ?_, ?_⟩
  · rw [utf8_eq_encode, String.toList_ofList]
  · rw [codePoints, String.toList_ofList]

end Roster.Text
