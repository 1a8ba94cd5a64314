import Roster.Json.Byte
import Roster.Text.Utf8

/-!
# `Roster.Proofs.Text.Encoding`: characters and their bytes

A reader of bytes meets the characters of a text one by one, each as one
byte or as several. The facts here say what it meets. An ASCII character
is one byte, its own number, below 128 (`encodeChar_ascii`). Every byte of
any other character is 128 or more (`wide_of_mem_encodeChar`), so no byte
with a meaning in the grammar occurs inside a character, and bytes below
128 spell ASCII characters (`ascii_of_encode`).
-/

set_option autoImplicit false

namespace Roster.Text

open Json (byte)

/-- Whether a character is ASCII. -/
def IsAscii (c : Char) : Prop :=
  c.toNat < 128

instance (c : Char) : Decidable (IsAscii c) :=
  inferInstanceAs (Decidable (c.toNat < 128))

/-- The UTF-8 bytes of some characters. -/
def encode (cs : List Char) : List UInt8 :=
  cs.flatMap String.utf8EncodeChar

/-- The bytes of a text are those of its characters. -/
theorem utf8_eq_encode (s : String) : utf8 s = encode s.toList := by
  rw [encode, ← utf8_ofList, String.ofList_toList]

@[simp]
theorem encode_nil : encode [] = [] := rfl

theorem encode_cons (c : Char) (cs : List Char) :
    encode (c :: cs) = String.utf8EncodeChar c ++ encode cs :=
  List.flatMap_cons

@[simp]
theorem encode_append (cs ds : List Char) : encode (cs ++ ds) = encode cs ++ encode ds :=
  List.flatMap_append

/-- The bytes of one character. -/
theorem encode_singleton (c : Char) : encode [c] = String.utf8EncodeChar c := by
  rw [encode_cons, encode_nil, List.append_nil]

/-- Two texts with the same bytes have the same characters. -/
theorem encode_injective {cs ds : List Char} (h : encode cs = encode ds) : cs = ds := by
  rw [encode, encode, ← utf8_ofList, ← utf8_ofList] at h
  exact String.ofList_inj.mp (utf8_injective h)

/-! ### ASCII characters -/

/-- An ASCII character is one byte. -/
theorem encodeChar_ascii {c : Char} (h : IsAscii c) : String.utf8EncodeChar c = [byte c] := by
  have hle : c.val.toNat ≤ 127 := Nat.le_of_lt_succ h
  simp only [String.utf8EncodeChar, hle, if_true]
  rfl

/-- The bytes of a text that begins with an ASCII character. -/
theorem encode_cons_ascii {c : Char} (h : IsAscii c) (cs : List Char) :
    encode (c :: cs) = byte c :: encode cs := by
  rw [encode_cons, encodeChar_ascii h]
  rfl

/-- The byte of an ASCII character has its number. -/
theorem toNat_byte {c : Char} (h : IsAscii c) : (byte c).toNat = c.toNat := by
  have hlt : c.toNat < 256 := Nat.lt_trans h (by decide)
  simpa [byte] using Nat.mod_eq_of_lt hlt

/-- Different ASCII characters have different bytes. -/
theorem byte_inj {c d : Char} (hc : IsAscii c) (hd : IsAscii d) (h : byte c = byte d) :
    c = d := by
  have hnat : c.toNat = d.toNat := by rw [← toNat_byte hc, ← toNat_byte hd, h]
  exact Char.ext (UInt32.toNat_inj.mp hnat)

/-- What holds of all ASCII characters can be tried on all of them. -/
theorem forall_ascii {p : Char → Prop} (h : ∀ n < 128, p (Char.ofNat n)) {c : Char}
    (hc : IsAscii c) : p c := by
  rw [← Char.ofNat_toNat c]
  exact h _ hc

/-! ### Wide characters -/

/-- Whether a byte belongs to a character that is not ASCII. -/
def IsWide (b : UInt8) : Prop :=
  128 ≤ b

/-- Every byte of a character that is not ASCII is wide. -/
theorem wide_of_mem_encodeChar {c : Char} (h : ¬ IsAscii c) :
    ∀ b ∈ String.utf8EncodeChar c, IsWide b := by
  have hlt : ¬ c.val.toNat ≤ 127 := fun hle => h (Nat.lt_succ_of_le hle)
  intro b hb
  have hmod : ∀ n : Nat, 128 ≤ n → n < 256 → IsWide (UInt8.ofNat n) := by
    intro n hle hn
    rw [IsWide, UInt8.le_iff_toNat_le, UInt8.toNat_ofNat_of_lt' hn]
    exact hle
  simp only [String.utf8EncodeChar, hlt, if_false] at hb
  -- Each byte is a bound of 128 or more and a remainder.
  split at hb
  · simp only [List.mem_cons, List.not_mem_nil, or_false] at hb
    rcases hb with rfl | rfl <;> exact hmod _ (by omega) (by omega)
  · split at hb
    · simp only [List.mem_cons, List.not_mem_nil, or_false] at hb
      rcases hb with rfl | rfl | rfl <;> exact hmod _ (by omega) (by omega)
    · simp only [List.mem_cons, List.not_mem_nil, or_false] at hb
      rcases hb with rfl | rfl | rfl | rfl <;> exact hmod _ (by omega) (by omega)

/-- Every character has a byte. -/
theorem encodeChar_ne_nil (c : Char) : String.utf8EncodeChar c ≠ [] := by
  intro h
  have hlength := String.length_utf8EncodeChar c
  rw [h] at hlength
  exact absurd hlength (Nat.ne_of_lt c.utf8Size_pos)

/-- The byte of an ASCII character is not wide. -/
theorem not_wide_byte {c : Char} (h : IsAscii c) : ¬ IsWide (byte c) := by
  intro hwide
  have hle := UInt8.le_iff_toNat_le.mp hwide
  rw [toNat_byte h] at hle
  exact absurd h (Nat.not_lt.mpr hle)

/-- If no byte is wide, the characters are ASCII, and the bytes are
theirs. -/
theorem ascii_of_encode {cs : List Char} (h : ∀ b ∈ encode cs, ¬ IsWide b) :
    (∀ c ∈ cs, IsAscii c) ∧ encode cs = cs.map byte := by
  induction cs with
  | nil => simp
  | cons c rest ih =>
    rw [encode_cons] at h
    have hc : IsAscii c := by
      refine Decidable.of_not_not fun hwide => ?_
      obtain ⟨b, hb⟩ := List.exists_mem_of_ne_nil _ (encodeChar_ne_nil c)
      exact h b (List.mem_append_left _ hb) (wide_of_mem_encodeChar hwide b hb)
    obtain ⟨hrest, hbytes⟩ := ih fun b hb => h b (List.mem_append_right _ hb)
    refine ⟨List.forall_mem_cons.mpr ⟨hc, hrest⟩, ?_⟩
    rw [encode_cons_ascii hc, hbytes, List.map_cons]

/-- The bytes of ASCII characters. -/
theorem encode_of_ascii {cs : List Char} (h : ∀ c ∈ cs, IsAscii c) : encode cs = cs.map byte := by
  induction cs with
  | nil => rfl
  | cons c rest ih =>
    obtain ⟨hc, hrest⟩ := List.forall_mem_cons.mp h
    rw [encode_cons_ascii hc, ih hrest, List.map_cons]

end Roster.Text
