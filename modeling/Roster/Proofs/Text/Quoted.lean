import Mathlib.Data.List.Basic
import Roster.Proofs.Text.Split
import Roster.Text.Quoted

/-!
# `Roster.Proofs.Text.Quoted`: a text in quotes delimits itself

What is written inside a longer text has to end somewhere. A writing is
`SelfDelimiting` if its end shows, whatever follows: two texts that begin
with the writing of something begin with the writing of the same thing,
and go on alike. So nothing that is written can pass for the end of its
writing.

* `selfDelimiting_escape`: a character in quotes is one. `Escaped` tells
  the three forms that it can take; a backslash or a quote never stands
  for itself.
* `SelfDelimiting.many`: things one after the other, with a character at
  the end that begins none of them.
* `selfDelimiting_chars`: hence a text in quotes.

A text in quotes has no ASCII control, so it stays on its line
(`oneLine_chars`).
-/

set_option autoImplicit false

namespace Roster.Text

/-! ### Writings that show their end -/

section
variable {α β : Type} {write : α → List Char}

/-- What is written, and where it ends, shows whatever follows. -/
def SelfDelimiting (write : α → List Char) : Prop :=
  ∀ ⦃a b : α⦄ ⦃u v : List Char⦄, write a ++ u = write b ++ v → a = b ∧ u = v

/-- What is found again from its part delimits itself if the part does. -/
theorem SelfDelimiting.comp (h : SelfDelimiting write) {part : β → α}
    (hpart : Function.Injective part) : SelfDelimiting fun b => write (part b) := by
  intro a b u v heq
  obtain ⟨hsame, hrest⟩ := h heq
  exact ⟨hpart hsame, hrest⟩

/-- Fixed characters may stand before a writing. -/
theorem SelfDelimiting.after (h : SelfDelimiting write) (before : List Char) :
    SelfDelimiting fun a => before ++ write a := by
  intro a b u v heq
  simp only [List.append_assoc] at heq
  exact h (List.append_cancel_left heq)

/-- Things are written one after the other, and then a character that
begins none of them. -/
theorem SelfDelimiting.many (h : SelfDelimiting write) {stop : Char}
    (hstop : ∀ a u v, write a ++ u ≠ stop :: v) :
    SelfDelimiting fun as : List α => as.flatMap write ++ [stop] := by
  intro as
  induction as with
  | nil =>
    intro bs u v heq
    cases bs with
    | nil => exact ⟨rfl, by simpa using heq⟩
    | cons b bs =>
      simp only [List.flatMap_nil, List.nil_append, List.flatMap_cons, List.append_assoc] at heq
      exact absurd heq.symm (hstop b _ _)
  | cons a as ih =>
    intro bs u v heq
    cases bs with
    | nil =>
      simp only [List.flatMap_nil, List.nil_append, List.flatMap_cons, List.append_assoc] at heq
      exact absurd heq (hstop a _ _)
    | cons b bs =>
      -- The first things are the same, and what is left is an instance of the hypothesis.
      simp only [List.flatMap_cons, List.append_assoc] at heq
      obtain ⟨rfl, hrest⟩ := h heq
      obtain ⟨rfl, hend⟩ := ih (by simpa only [List.append_assoc] using hrest)
      exact ⟨rfl, hend⟩

end

/-! ### Hexadecimal digits -/

variable {n : Nat} {c : Char}

/-- What is written for a number below sixteen is a digit, and is read as
that number. -/
theorem hexDigit_spec (h : n < 16) :
    isHexDigit (hexDigit n) = true ∧ hexDigitValue (hexDigit n) = n := by
  revert h n
  decide

/-- A number is written in digits. -/
theorem isHexDigit_of_mem_hexDigits (h : c ∈ hexDigits n) : isHexDigit c = true := by
  induction n using hexDigits.induct with
  | case1 n hn =>
    rw [hexDigits, if_pos hn, List.mem_singleton] at h
    rw [h]
    exact (hexDigit_spec hn).1
  | case2 n hn ih =>
    rw [hexDigits, if_neg hn, List.mem_append, List.mem_singleton] at h
    rcases h with h | rfl
    · exact ih h
    · exact (hexDigit_spec (Nat.mod_lt n (by decide))).1

/-- The digits of a number are read as the number. -/
theorem foldl_hexDigits (n : Nat) :
    (hexDigits n).foldl (fun n d => 16 * n + hexDigitValue d) 0 = n := by
  induction n using hexDigits.induct with
  | case1 n hn => simp [hexDigits, hn, (hexDigit_spec hn).2]
  | case2 n hn ih =>
    rw [hexDigits, if_neg hn, List.foldl_append, ih, List.foldl_cons, List.foldl_nil,
      (hexDigit_spec (Nat.mod_lt n (by decide))).2]
    exact Nat.div_add_mod n 16

/-- Different numbers have different digits. -/
theorem hexDigits_injective : Function.Injective hexDigits := by
  intro n m h
  rw [← foldl_hexDigits n, h, foldl_hexDigits]

namespace Quoted

/-! ### Characters -/

/-- The characters with a short escape, and the letter that stands after
the backslash for each. -/
def letters : List (Char × Char) :=
  [('\x00', '0'), ('\t', 't'), ('\n', 'n'), ('\r', 'r'), ('"', '"'), ('\\', '\\')]

/-- The forms in which a character is shown between quotes. -/
inductive Escaped (c : Char) : List Char → Prop where
  | short (letter : Char) (h : (c, letter) ∈ letters) : Escaped c ['\\', letter]
  | byCodePoint : Escaped c (byCodePoint c)
  /-- The character stands for itself. -/
  | plain (hquote : c ≠ '"') (hslash : c ≠ '\\') (hhidden : isHidden c = false) : Escaped c [c]

/-- A character is shown in one of these forms. -/
theorem escaped_escape (c : Char) : Escaped c (escape c) := by
  unfold escape
  split_ifs with hnul htab hline hreturn hquote hslash hhidden
  · exact .short '0' (by subst hnul; decide)
  · exact .short 't' (by subst htab; decide)
  · exact .short 'n' (by subst hline; decide)
  · exact .short 'r' (by subst hreturn; decide)
  · exact .short '"' (by subst hquote; decide)
  · exact .short '\\' (by subst hslash; decide)
  · exact .byCodePoint
  · exact .plain hquote hslash (by simpa using hhidden)

/-- No letter stands for two characters, and none for a code point. -/
theorem letters_inj {d letter : Char} (hc : (c, letter) ∈ letters) (hd : (d, letter) ∈ letters) :
    c = d := by
  have hall : ∀ p ∈ letters, ∀ q ∈ letters, p.2 = q.2 → p.1 = q.1 := by decide
  exact hall _ hc _ hd rfl

theorem letter_ne_mark {letter : Char} (h : (c, letter) ∈ letters) : letter ≠ 'u' := by
  have hall : ∀ p ∈ letters, p.2 ≠ 'u' := by decide
  exact hall _ h

/-- A code point in braces delimits itself: no digit is a brace. -/
theorem selfDelimiting_byCodePoint : SelfDelimiting byCodePoint := by
  intro c d u v heq
  have hbrace : ∀ n, '}' ∉ hexDigits n := by
    intro n hmem
    exact absurd (isHexDigit_of_mem_hexDigits hmem) (by decide)
  simp only [byCodePoint, List.append_assoc, List.singleton_append] at heq
  obtain ⟨hdigits, hrest⟩ :=
    append_cons_inj (hbrace _) (hbrace _) (List.append_cancel_left heq)
  exact ⟨Char.ext (UInt32.toNat_inj.mp (hexDigits_injective hdigits)), hrest⟩

/-- A character in quotes delimits itself. The backslash tells an escape
from a plain character, and the letter after it which escape it is. -/
theorem selfDelimiting_escape : SelfDelimiting escape := by
  intro c d u v heq
  have hc := escaped_escape c
  have hd := escaped_escape d
  generalize escape c = front at heq hc
  generalize escape d = front' at heq hd
  -- Forms of two kinds differ in their first character, or in the letter after the backslash.
  cases hc with
  | short letter hletter =>
    cases hd with
    | short letter' hletter' =>
      obtain ⟨rfl, hrest⟩ := List.cons.inj (List.cons.inj heq).2
      exact ⟨letters_inj hletter hletter', hrest⟩
    | byCodePoint => exact absurd (List.cons.inj (List.cons.inj heq).2).1 (letter_ne_mark hletter)
    | plain _ hslash => exact absurd (List.cons.inj heq).1.symm hslash
  | byCodePoint =>
    cases hd with
    | short letter' hletter' =>
      exact absurd (List.cons.inj (List.cons.inj heq).2).1.symm (letter_ne_mark hletter')
    | byCodePoint => exact selfDelimiting_byCodePoint heq
    | plain _ hslash => exact absurd (List.cons.inj heq).1.symm hslash
  | plain _ hslash =>
    cases hd with
    | short | byCodePoint => exact absurd (List.cons.inj heq).1 hslash
    | plain => exact List.cons.inj heq

/-- No character is shown with a quote at its front. -/
theorem escape_append_ne (c : Char) (u v : List Char) : escape c ++ u ≠ '"' :: v := by
  intro heq
  have hc := escaped_escape c
  generalize escape c = front at heq hc
  cases hc with
  | short | byCodePoint => exact absurd (List.cons.inj heq).1 (by decide)
  | plain hquote => exact hquote (List.cons.inj heq).1

/-! ### Texts -/

/-- A text in quotes delimits itself. -/
theorem selfDelimiting_chars : SelfDelimiting chars := by
  have hbody := selfDelimiting_escape.many escape_append_ne
  have hname := hbody.comp fun (s t : String) (h : s.toList = t.toList) => String.toList_inj.mp h
  exact hname.after ['"']

/-! ### Controls -/

/-- An ASCII control: a character below the space, or the last of the
ASCII characters. -/
def IsControl (c : Char) : Prop :=
  c.toNat < 0x20 ∨ c.toNat = 0x7F

instance (c : Char) : Decidable (IsControl c) :=
  inferInstanceAs (Decidable (_ ∨ _))

/-- No control is printable. -/
theorem isHidden_of_isControl (h : IsControl c) : isHidden c = true := by
  have hranges : isUnprintable c = true := by
    rw [isUnprintable, inRanges_eq_true_iff]
    rcases h with h | h
    · exact ⟨(0x0, 0x1F), .head _, Nat.zero_le _, Nat.le_of_lt_succ h⟩
    · exact ⟨(0x7F, 0xA0), .tail _ (.head _), Nat.le_of_eq h.symm, by simp [h]⟩
  simp [isHidden, hranges]

/-- No digit is a control. -/
theorem not_isControl_of_isHexDigit (h : isHexDigit c = true) : ¬ IsControl c := by
  have hrange : 0x30 ≤ c.toNat ∧ c.toNat ≤ 0x66 := by
    simp only [isHexDigit, Char.isDigit, Bool.or_eq_true, Bool.and_eq_true, decide_eq_true_eq,
      Char.le_def, UInt32.le_iff_toNat_le] at h
    rcases h with (h | h) | h
    · exact ⟨h.1, Nat.le_trans h.2 (by decide)⟩
    · exact ⟨Nat.le_trans (by decide) h.1, h.2⟩
    · exact ⟨Nat.le_trans (by decide) h.1, Nat.le_trans h.2 (by decide)⟩
  unfold IsControl
  omega

/-- No characters that break a line, or are a control otherwise. -/
def OneLine (cs : List Char) : Prop :=
  ∀ c ∈ cs, ¬ IsControl c

instance (cs : List Char) : Decidable (OneLine cs) :=
  List.decidableBAll (fun c => ¬ IsControl c) cs

theorem OneLine.append {cs ds : List Char} (hc : OneLine cs) (hd : OneLine ds) :
    OneLine (cs ++ ds) :=
  List.forall_mem_append.mpr ⟨hc, hd⟩

/-- A character is shown without controls. -/
theorem oneLine_escape (c : Char) : OneLine (escape c) := by
  have hc := escaped_escape c
  generalize escape c = shown at hc
  cases hc with
  | short letter hletter =>
    have hall : letters.all (fun p => decide (OneLine ['\\', p.2])) = true := by decide
    exact of_decide_eq_true (List.all_eq_true.mp hall _ hletter)
  | byCodePoint =>
    have hdigits : OneLine (hexDigits c.toNat) := fun d hd =>
      not_isControl_of_isHexDigit (isHexDigit_of_mem_hexDigits hd)
    have hopen : OneLine ['\\', 'u', '{'] := by decide
    exact (hopen.append hdigits).append (by decide)
  | plain _ _ hhidden =>
    intro d hd hcontrol
    rw [List.mem_singleton.mp hd] at hcontrol
    exact nomatch hhidden.symm.trans (isHidden_of_isControl hcontrol)

/-- A text in quotes has no controls. -/
theorem oneLine_chars (s : String) : OneLine (chars s) := by
  have hquote : OneLine ['"'] := by decide
  have hbody : OneLine (s.toList.flatMap escape) := by
    intro c hc
    obtain ⟨d, _, hmem⟩ := List.mem_flatMap.mp hc
    exact oneLine_escape d c hmem
  exact (hquote.append hbody).append hquote

end Quoted

end Roster.Text
