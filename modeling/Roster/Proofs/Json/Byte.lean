import Roster.Json.TextToken
import Roster.Proofs.Json.Grammar
import Roster.Proofs.Json.Run

/-!
# `Roster.Proofs.Json.Byte`: bytes and the characters of the grammar

The readers sort bytes into classes, the grammar sorts characters. On
ASCII characters the two agree, which is tried on all of them. A wide
byte is in no class of the readers (`unclassed_of_wide`), so nothing but
a string has room for it.
-/

set_option autoImplicit false

namespace Roster.Json

open Text (encode IsAscii IsWide)

variable {c d : Char} {b : UInt8}

/-! ### ASCII characters -/

theorem isBlank_byte (h : IsAscii c) : isBlank (byte c) = decide (IsBlank c) :=
  Text.forall_ascii (p := fun c => isBlank (byte c) = decide (IsBlank c)) (by decide +kernel) h

/-- A blank is a blank as a byte. -/
theorem isBlank_of_byte (hascii : IsAscii c) (h : isBlank (byte c) = true) : IsBlank c := by
  rwa [isBlank_byte hascii, decide_eq_true_eq] at h

theorem isDigit_byte (h : IsAscii c) : isDigit (byte c) = c.isDigit :=
  Text.forall_ascii (p := fun c => isDigit (byte c) = c.isDigit) (by decide +kernel) h

theorem hexValue?_byte (h : IsAscii c) :
    Text.hexValue? (byte c) =
      if Text.isHexDigit c then some (Text.hexDigitValue c) else none :=
  Text.forall_ascii
    (p := fun c => Text.hexValue? (byte c) =
      if Text.isHexDigit c then some (Text.hexDigitValue c) else none) (by decide +kernel) h

/-- The short escapes of the reader are those of the grammar. -/
theorem shortEscape?_byte (h : IsAscii c) :
    TextToken.shortEscape? (byte c) = some d ↔ (c, d) ∈ shortEscapes := by
  constructor
  · have hlookup : TextToken.shortEscape? (byte c) = shortEscapes.lookup c :=
      Text.forall_ascii
        (p := fun c => TextToken.shortEscape? (byte c) = shortEscapes.lookup c)
        (by decide +kernel) h
    rw [hlookup]
    intro hsome
    obtain ⟨before, after, hsplit, _⟩ := List.lookup_eq_some_iff.mp hsome
    rw [hsplit]
    exact List.mem_append_right _ List.mem_cons_self
  · intro hmem
    simp only [shortEscapes, List.mem_cons, Prod.mk.injEq, List.not_mem_nil, or_false] at hmem
    rcases hmem with ⟨rfl, rfl⟩ | ⟨rfl, rfl⟩ | ⟨rfl, rfl⟩ | ⟨rfl, rfl⟩ | ⟨rfl, rfl⟩ | ⟨rfl, rfl⟩ |
      ⟨rfl, rfl⟩ | ⟨rfl, rfl⟩ <;> rfl

/-- A letter may stand after a backslash where strings are passed over if
it does where they are read. -/
theorem isShortEscape_byte (h : IsAscii c) :
    isShortEscape (byte c) = (TextToken.shortEscape? (byte c)).isSome :=
  Text.forall_ascii
    (p := fun c => isShortEscape (byte c) = (TextToken.shortEscape? (byte c)).isSome)
    (by decide +kernel) h

/-! ### What the grammar takes to be ASCII -/

theorem IsBlank.isAscii (h : IsBlank c) : IsAscii c := by
  rcases h with rfl | rfl | rfl | rfl <;> decide

theorem IsBlank.byte (h : IsBlank c) : isBlank (byte c) = true := by
  rw [isBlank_byte h.isAscii]
  exact decide_eq_true h

theorem Blanks.isAscii {cs : List Char} (h : Blanks cs) : ∀ c ∈ cs, IsAscii c :=
  fun c hc => (h c hc).isAscii

theorem isAscii_of_isDigit (h : c.isDigit = true) : IsAscii c := by
  simp only [Char.isDigit, Bool.and_eq_true, decide_eq_true_eq, UInt32.le_iff_toNat_le] at h
  exact Nat.lt_of_le_of_lt h.2 (by decide)

theorem isAscii_of_isHexDigit (h : Text.isHexDigit c = true) : IsAscii c := by
  simp only [Text.isHexDigit, Bool.or_eq_true, Bool.and_eq_true, decide_eq_true_eq] at h
  rcases h with (h | h) | h
  · exact isAscii_of_isDigit h
  · exact Nat.lt_of_le_of_lt (UInt32.le_iff_toNat_le.mp h.2) (by decide)
  · exact Nat.lt_of_le_of_lt (UInt32.le_iff_toNat_le.mp h.2) (by decide)

theorem isAscii_of_shortEscape (h : (c, d) ∈ shortEscapes) : IsAscii c := by
  have hall : ∀ pair ∈ shortEscapes, IsAscii pair.1 := by decide
  exact hall _ h

theorem hexDigitValue_lt (h : Text.isHexDigit c = true) : Text.hexDigitValue c < 16 :=
  Text.forall_ascii
    (p := fun c => Text.isHexDigit c = true → Text.hexDigitValue c < 16)
    (by decide +kernel) (isAscii_of_isHexDigit h) h

/-- A state that stays at a blank waits over any number of them. -/
theorem Goes.blanks {σ ρ : Type} {step : σ → UInt8 → Except Error ρ} {more : σ → ρ} {s : σ}
    (hwait : ∀ c, IsBlank c → step s (byte c) = .ok (more s)) {cs : List Char} (h : Blanks cs) :
    Goes step more s (encode cs) s := by
  rw [Text.encode_of_ascii h.isAscii]
  induction cs with
  | nil => exact .nil s
  | cons c rest ih =>
    obtain ⟨hc, hrest⟩ := List.forall_mem_cons.mp h
    exact .cons (hwait c hc) (ih hrest)

/-! ### Wide bytes -/

/-- What holds of all wide bytes can be tried on all of them. -/
theorem forall_wide {p : UInt8 → Prop} (h : ∀ n < 256, 128 ≤ n → p (UInt8.ofNat n))
    (hb : IsWide b) : p b := by
  rw [← UInt8.ofNat_toNat (x := b)]
  exact h _ b.toNat_lt (UInt8.le_iff_toNat_le.mp hb)

/-- A wide byte is in no class of the readers. -/
structure Unclassed (b : UInt8) : Prop where
  ascii : ∀ c, IsAscii c → b ≠ byte c
  blank : isBlank b = false
  digit : isDigit b = false
  hex : Text.hexValue? b = none
  shortEscape : TextToken.shortEscape? b = none
  passedEscape : isShortEscape b = false
  word : Word.ofFirst? b = none
  number : NumberPart.first? b = none
  control : ¬ b < 0x20

theorem unclassed_of_wide (h : IsWide b) : Unclassed b where
  ascii c hc hbyte := Text.not_wide_byte hc (hbyte ▸ h)
  blank := forall_wide (p := fun b => isBlank b = false) (by decide +kernel) h
  digit := forall_wide (p := fun b => isDigit b = false) (by decide +kernel) h
  hex := forall_wide (p := fun b => Text.hexValue? b = none) (by decide +kernel) h
  shortEscape :=
    forall_wide (p := fun b => TextToken.shortEscape? b = none) (by decide +kernel) h
  passedEscape := forall_wide (p := fun b => isShortEscape b = false) (by decide +kernel) h
  word := forall_wide (p := fun b => Word.ofFirst? b = none) (by decide +kernel) h
  number := forall_wide (p := fun b => NumberPart.first? b = none) (by decide +kernel) h
  control := forall_wide (p := fun b => ¬ b < 0x20) (by decide +kernel) h

end Roster.Json
