import Mathlib.Data.List.DropRight
import Roster.Config
import Roster.Proofs.Text.WellFormed

/-!
# `Roster.Proofs.Config`: which settings are taken

The bytes of the variable are taken as the URL exactly if they are usable:
UTF-8 for code points of which one is not white space (`Usable`). They are
taken as they stand. Everything else gives the default, which is usable
itself. So the URL in use is always usable (`usable_databaseUrl`), and
setting the variable to it changes nothing (`ofEnvironment_exact`).

What is tested is a trimmed text, and what is taken is the text. Trimming
leaves nothing exactly of a blank text, at whichever end the white space
stands (`trimmed_eq_nil_iff`).
-/

set_option autoImplicit false

namespace Roster

namespace Text

/-- Trimming leaves nothing exactly if all characters are white space. -/
theorem trimmed_eq_nil_iff {cs : List Char} :
    trimmed cs = [] ↔ ∀ c ∈ cs, isWhiteSpace c = true := by
  have hends : trimmed cs = (cs.dropWhile isWhiteSpace).rdropWhile isWhiteSpace := rfl
  rw [hends, List.rdropWhile_eq_nil_iff]
  constructor
  · intro hkept c hc
    rw [← List.takeWhile_append_dropWhile (p := isWhiteSpace) (l := cs)] at hc
    rcases List.mem_append.mp hc with hfront | hback
    · exact List.mem_takeWhile_imp hfront
    · exact hkept c hback
  · intro hall c hc
    exact hall c ((List.dropWhile_sublist _).subset hc)

/-- Trimming leaves nothing exactly of a blank text. -/
theorem isEmpty_trimmed (s : String) : (trimmed s.toList).isEmpty = isBlank s := by
  rw [Bool.eq_iff_iff, List.isEmpty_iff, trimmed_eq_nil_iff, isBlank, List.all_eq_true]

/-- A text is not blank exactly if one of its code points is not white
space. -/
theorem isBlank_eq_false_iff_codePoints {s : String} :
    isBlank s = false ↔ ∃ v ∈ codePoints s, inRanges whiteSpaceRanges v = false := by
  rw [isBlank_eq_false_iff, codePoints]
  simp [isWhiteSpace]

end Text

namespace Config

open Text (IsUtf8 codePoints inRanges whiteSpaceRanges isBlank ofUtf8? utf8)

variable {bytes : List UInt8} {s : String} {value : Option (List UInt8)}

/-- Bytes that are taken as a URL. They are UTF-8, and one of the code
points is not white space. -/
def Usable (bytes : List UInt8) : Prop :=
  ∃ points, IsUtf8 bytes points ∧ ∃ v ∈ points, inRanges whiteSpaceRanges v = false

/-- Usable bytes are those of a text that is not blank. -/
theorem usable_iff : Usable bytes ↔ ∃ s, ofUtf8? bytes = some s ∧ isBlank s = false := by
  constructor
  · rintro ⟨points, hutf8, hsome⟩
    obtain ⟨s, hread, rfl⟩ := hutf8.exists_text
    exact ⟨s, hread, Text.isBlank_eq_false_iff_codePoints.mpr hsome⟩
  · rintro ⟨s, hread, hblank⟩
    exact ⟨codePoints s, Text.ofUtf8?_eq_some_iff_isUtf8.mp hread,
      Text.isBlank_eq_false_iff_codePoints.mp hblank⟩

/-- The bytes of a text are usable unless it is blank. -/
theorem usable_utf8_iff : Usable (utf8 s) ↔ isBlank s = false := by
  simp [usable_iff]

/-- The default can be set. -/
theorem usable_defaultUrl : Usable (utf8 defaultUrl) :=
  usable_utf8_iff.mpr rfl

/-- A text that is not blank is taken as it stands. -/
theorem ofEnvironment_utf8 (h : isBlank s = false) : ofEnvironment (some (utf8 s)) = ⟨s⟩ := by
  simp [ofEnvironment, ofUrl?, Text.isEmpty_trimmed, h]

/-- Usable bytes are taken as they stand. -/
theorem utf8_ofEnvironment_of_usable (h : Usable bytes) :
    utf8 (ofEnvironment (some bytes)).databaseUrl = bytes := by
  obtain ⟨s, hread, hblank⟩ := usable_iff.mp h
  obtain rfl := Text.ofUtf8?_eq_some_iff.mp hread
  rw [ofEnvironment_utf8 hblank]

/-- What is not usable gives the default. -/
theorem ofEnvironment_of_not_usable (h : ∀ bytes, value = some bytes → ¬ Usable bytes) :
    ofEnvironment value = default := by
  cases value with
  | none => rfl
  | some bytes =>
    rw [ofEnvironment, Option.bind_some]
    cases hread : ofUtf8? bytes with
    | none => rfl
    | some s =>
      have hblank : isBlank s = true := by
        refine Decidable.of_not_not fun hnot => h bytes rfl (usable_iff.mpr ⟨s, hread, ?_⟩)
        exact Bool.eq_false_iff.mpr hnot
      rw [ofUrl?, Text.isEmpty_trimmed, if_pos hblank]

/-- The URL in use is what is set or the default. -/
theorem databaseUrl_cases (value : Option (List UInt8)) :
    (∃ bytes, value = some bytes ∧ Usable bytes ∧
      utf8 (ofEnvironment value).databaseUrl = bytes) ∨
    ofEnvironment value = default := by
  by_cases h : ∃ bytes, value = some bytes ∧ Usable bytes
  · obtain ⟨bytes, rfl, husable⟩ := h
    exact Or.inl ⟨bytes, rfl, husable, utf8_ofEnvironment_of_usable husable⟩
  · refine Or.inr (ofEnvironment_of_not_usable fun bytes hvalue husable => ?_)
    exact h ⟨bytes, hvalue, husable⟩

/-- The URL in use can be set. -/
theorem usable_databaseUrl (value : Option (List UInt8)) :
    Usable (utf8 (ofEnvironment value).databaseUrl) := by
  rcases databaseUrl_cases value with ⟨bytes, -, husable, htaken⟩ | hdefault
  · rwa [htaken]
  · rw [hdefault]
    exact usable_defaultUrl

/-- The bytes that are set become the URL in use exactly if they are
usable, and whatever else the variable holds, or if it holds nothing, the
default is in use. The URL in use is not blank. It has no zero byte if none
was set, so the variable can be set to it, which gives the same settings. -/
theorem ofEnvironment_exact (value : Option (List UInt8)) :
    (∀ bytes, value = some bytes →
      (utf8 (ofEnvironment value).databaseUrl = bytes ↔ Usable bytes)) ∧
    ((∀ bytes, value = some bytes → ¬ Usable bytes) → ofEnvironment value = default) ∧
    isBlank (ofEnvironment value).databaseUrl = false ∧
    ((∀ bytes, value = some bytes → 0 ∉ bytes) → 0 ∉ utf8 (ofEnvironment value).databaseUrl) ∧
    ofEnvironment (some (utf8 (ofEnvironment value).databaseUrl)) = ofEnvironment value := by
  have hblank : isBlank (ofEnvironment value).databaseUrl = false :=
    usable_utf8_iff.mp (usable_databaseUrl value)
  refine ⟨?taken, ofEnvironment_of_not_usable, hblank, ?zero, ofEnvironment_utf8 hblank⟩
  case taken =>
    rintro bytes rfl
    constructor
    · intro hsame
      rw [← hsame]
      exact usable_databaseUrl _
    · exact utf8_ofEnvironment_of_usable
  case zero =>
    intro hzero
    rcases databaseUrl_cases value with ⟨bytes, hvalue, -, htaken⟩ | hdefault
    · rw [htaken]
      exact hzero bytes hvalue
    · rw [hdefault]
      decide

/-- White space of several bytes stays at both ends of what is taken. A
space in an overlong form is not white space and makes the bytes no text.
Of a space, a tab, a no-break space and a line separator nothing is taken. -/
theorem ofEnvironment_padded_and_overlong :
    utf8 (ofEnvironment (some [0xE3, 0x80, 0x80, 0x78, 0xC2, 0x85])).databaseUrl =
      [0xE3, 0x80, 0x80, 0x78, 0xC2, 0x85] ∧
    ofEnvironment (some [0x78, 0xC0, 0xA0]) = default ∧
    ofEnvironment (some [0x20, 0x09, 0xC2, 0xA0, 0xE2, 0x80, 0xA8]) = default := by
  have hspace : Text.IsSequence [0xE3, 0x80, 0x80] := by decide
  have hletter : Text.IsSequence [0x78] := by decide
  have hnextLine : Text.IsSequence [0xC2, 0x85] := by decide
  have hpadded : Usable [0xE3, 0x80, 0x80, 0x78, 0xC2, 0x85] :=
    ⟨_, .cons hspace (.cons hletter (.cons hnextLine .nil)), 0x78, by decide, by decide⟩
  have hoverlong : ¬ Usable [0x78, 0xC0, 0xA0] := by
    rw [usable_iff]
    rintro ⟨s, hread, -⟩
    cases hread
  have hblank : ¬ Usable [0x20, 0x09, 0xC2, 0xA0, 0xE2, 0x80, 0xA8] := by
    rw [usable_iff]
    rintro ⟨s, hread, hsome⟩
    have hspaces : ofUtf8? [0x20, 0x09, 0xC2, 0xA0, 0xE2, 0x80, 0xA8] =
        some (String.ofList [' ', '\t', '\u00A0', '\u2028']) := by decide
    rw [← Option.some.inj (hspaces.symm.trans hread)] at hsome
    exact absurd hsome (by decide)
  refine ⟨((ofEnvironment_exact _).1 _ rfl).mpr hpadded, (ofEnvironment_exact _).2.1 ?_,
    (ofEnvironment_exact _).2.1 ?_⟩
  · rintro bytes ⟨⟩
    exact hoverlong
  · rintro bytes ⟨⟩
    exact hblank

end Config

end Roster
