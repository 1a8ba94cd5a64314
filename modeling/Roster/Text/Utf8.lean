/-!
# `Roster.Text.Utf8`: texts as bytes

A text is stored as the UTF-8 bytes of its characters. `utf8` writes
them out and `ofUtf8?` reads them back, refusing every byte sequence
that no text has:

* `ofUtf8?_eq_some_iff`: a byte sequence reads as `s` exactly when it
  is the bytes of `s`. So both directions of the round trip hold, and
  each text has one spelling in bytes.
* `utf8_ofList`: the bytes of a text are those of its characters, one
  character after the other.
-/

set_option autoImplicit false

namespace Roster.Text

/-- The UTF-8 bytes of a text. -/
def utf8 (s : String) : List UInt8 :=
  s.toByteArray.data.toList

/-- The text whose UTF-8 bytes these are, if there is one. -/
def ofUtf8? (bytes : List UInt8) : Option String :=
  String.fromUTF8? ⟨bytes.toArray⟩

/-- A byte sequence reads as a text exactly when it is the bytes of
that text. -/
theorem ofUtf8?_eq_some_iff {bytes : List UInt8} {s : String} :
    ofUtf8? bytes = some s ↔ utf8 s = bytes := by
  unfold ofUtf8? utf8 String.fromUTF8?
  constructor
  · intro h
    split at h
    · cases h
      simp [String.fromUTF8]
    · cases h
  · rintro rfl
    simp [String.fromUTF8, s.isValidUTF8]

/-- Reading undoes writing. -/
@[simp] theorem ofUtf8?_utf8 (s : String) : ofUtf8? (utf8 s) = some s :=
  ofUtf8?_eq_some_iff.2 rfl

/-- Two texts with the same bytes are the same text. -/
theorem utf8_injective {s t : String} (h : utf8 s = utf8 t) : s = t := by
  have hs := ofUtf8?_utf8 s
  rw [h, ofUtf8?_utf8] at hs
  exact (Option.some.inj hs).symm

/-- The bytes of a text, character by character. -/
theorem utf8_ofList (cs : List Char) :
    utf8 (String.ofList cs) = cs.flatMap String.utf8EncodeChar := by
  simp [utf8, String.toByteArray_ofList, List.utf8Encode]

end Roster.Text
