import Mathlib.Data.UInt
import Roster.Proofs.Text.Encoding

/-!
# `Roster.Proofs.Text.CodePoints`: the order of bytes is the order of code points

Texts are compared by their bytes. `compare_utf8` says that comparing them
by their code points gives the same answer.

A character is written as a lead byte and up to three further bytes, each
of which carries six bits (`exists_isWidth`). Of two characters with
different numbers of bytes, the shorter one has the lesser code point and
the lesser lead byte (`IsWidth.lead_lt`). Two characters with the same
number of bytes differ like the digits of their code points to the base 64
(`compare_continuation`). Either way the first byte that differs lies
within the two characters, and so whatever follows them has no say unless
they are the same character (`compare_encodeChar_append`).
-/

set_option autoImplicit false

namespace Roster.Text

/-- The code points of a text. -/
def codePoints (s : String) : List Nat :=
  s.toList.map Char.toNat

/-! ### Numbers by their digits -/

/-- Numbers are compared by what is before the last digit and then by the
last digit. -/
theorem compare_div_mod (n v w : Nat) :
    compare v w = (compare (v / n) (w / n)).then (compare (v % n) (w % n)) := by
  rcases Nat.lt_trichotomy (v / n) (w / n) with hlt | heq | hgt
  · rw [Nat.compare_eq_lt.mpr hlt, Nat.compare_eq_lt.mpr (Nat.lt_of_div_lt_div hlt)]
    rfl
  · -- Only the last digits tell the numbers apart.
    rw [Nat.compare_eq_eq.mpr heq, Ordering.eq_then]
    have hv := Nat.div_add_mod v n
    have hw := Nat.div_add_mod w n
    rw [heq] at hv
    rw [Nat.compare_eq_ite_lt, Nat.compare_eq_ite_lt]
    congr 1
    · exact propext ⟨by omega, by omega⟩
    · congr 1
      exact propext ⟨by omega, by omega⟩
  · rw [Nat.compare_eq_gt.mpr hgt, Nat.compare_eq_gt.mpr (Nat.lt_of_div_lt_div hgt)]
    rfl

/-- Numbers that are moved by the same amount compare as before. -/
theorem compare_add_right (v w k : Nat) : compare (v + k) (w + k) = compare v w := by
  simp only [Nat.compare_eq_ite_lt, Nat.add_lt_add_iff_right]

/-- Bytes are compared as numbers. -/
theorem compare_ofNat {m n : Nat} (hm : m < 256) (hn : n < 256) :
    compare (UInt8.ofNat m) (UInt8.ofNat n) = compare m n := by
  rw [UInt8.compare_eq_toNat_compare_toNat, UInt8.toNat_ofNat_of_lt' hm,
    UInt8.toNat_ofNat_of_lt' hn]

/-! ### The bytes of a character -/

/-- The last `k` bytes of a character with code point `v`, each with six
of its bits. -/
def continuation : Nat → Nat → List UInt8
  | 0, _ => []
  | k + 1, v => continuation k (v / 64) ++ [UInt8.ofNat (v % 64 + 0x80)]

theorem length_continuation (k v : Nat) : (continuation k v).length = k := by
  induction k generalizing v with
  | zero => rfl
  | succ k ih => rw [continuation, List.length_append, ih, List.length_singleton]

/-- What the lead byte begins at if `k` bytes follow it. -/
def mark : Nat → Nat
  | 0 => 0
  | 1 => 0xC0
  | 2 => 0xE0
  | 3 => 0xF0
  | _ => 0xF8

theorem mark_mono : Monotone mark := by
  refine monotone_nat_of_le_succ fun k => ?_
  match k with
  | 0 | 1 | 2 | 3 => decide
  | _ + 4 => exact Nat.le_refl _

/-- The code points of characters with at most `k` bytes after the lead
byte are below this. -/
def limit : Nat → Nat
  | 0 => 0x80
  | 1 => 0x800
  | 2 => 0x10000
  | _ => 0x110000

theorem limit_mono : Monotone limit := by
  refine monotone_nat_of_le_succ fun k => ?_
  match k with
  | 0 | 1 | 2 => decide
  | _ + 3 => exact Nat.le_refl _

/-- The lead byte of a character with `k` further bytes. It has what they
leave over of the code point. -/
def lead (k v : Nat) : Nat :=
  v / 64 ^ k + mark k

/-- A character with code point `v` has `k` bytes after its lead byte. -/
structure IsWidth (k v : Nat) : Prop where
  le_three : k ≤ 3
  lt_limit : v < limit k
  limit_le : ∀ j < k, limit j ≤ v

/-- A code point that has reached a limit has reached those before it. -/
theorem IsWidth.of_limit_le {k v : Nat} (hle : k + 1 ≤ 3) (hlt : v < limit (k + 1))
    (hlimit : limit k ≤ v) : IsWidth (k + 1) v where
  le_three := hle
  lt_limit := hlt
  limit_le _ hj := Nat.le_trans (limit_mono (Nat.le_of_lt_succ hj)) hlimit

/-- A character is its lead byte and the further bytes. -/
theorem exists_isWidth (c : Char) :
    ∃ k, IsWidth k c.toNat ∧
      String.utf8EncodeChar c = UInt8.ofNat (lead k c.toNat) :: continuation k c.toNat := by
  have hvalid : c.toNat < 0x110000 := by
    rcases c.valid with h | ⟨_, h⟩
    · exact Nat.lt_trans h (by decide)
    · exact h
  have hval : c.val.toNat = c.toNat := rfl
  generalize c.toNat = v at hvalid hval
  -- The remainders that keep the bits of a lead byte apart change nothing.
  have hlead₁ : v < 0x800 → v / 64 % 32 = v / 64 := by omega
  have hlead₂ : v < 0x10000 → v / 4096 % 16 = v / 4096 := by omega
  have hlead₃ : v / 262144 % 8 = v / 262144 := by omega
  simp only [String.utf8EncodeChar, hval]
  split
  · rename_i h₀
    exact ⟨0, ⟨by decide, Nat.lt_succ_of_le h₀, by omega⟩, by simp [lead, mark, continuation]⟩
  · rename_i h₀
    split
    · rename_i h₁
      refine ⟨1, .of_limit_le (by decide) (Nat.lt_succ_of_le h₁) (Nat.lt_of_not_le h₀), ?_⟩
      simp [lead, mark, continuation, hlead₁ (Nat.lt_succ_of_le h₁)]
    · rename_i h₁
      split
      · rename_i h₂
        refine ⟨2, .of_limit_le (by decide) (Nat.lt_succ_of_le h₂) (Nat.lt_of_not_le h₁), ?_⟩
        simp [lead, mark, continuation, hlead₂ (Nat.lt_succ_of_le h₂)]
      · rename_i h₂
        refine ⟨3, .of_limit_le (by decide) hvalid (Nat.lt_of_not_le h₂), ?_⟩
        simp [lead, mark, continuation, hlead₃, Nat.div_div_eq_div_mul]

/-- The lead byte is below the marks of longer characters. -/
theorem IsWidth.lead_lt_mark {k v : Nat} (h : IsWidth k v) : lead k v < mark (k + 1) := by
  obtain ⟨hle, hlt, -⟩ := h
  match k, hle with
  | 0, _ | 1, _ | 2, _ | 3, _ =>
    simp only [limit] at hlt
    simp only [lead, mark]
    omega

/-- The lead byte is a byte. -/
theorem IsWidth.lead_lt_size {k v : Nat} (h : IsWidth k v) : lead k v < 256 :=
  calc
    lead k v < mark (k + 1) := h.lead_lt_mark
    _ ≤ mark 4 := mark_mono (Nat.succ_le_succ h.le_three)
    _ < 256 := by decide

/-- Of two characters with different numbers of bytes, the shorter one has
the lesser lead byte. -/
theorem IsWidth.lead_lt {j k v w : Nat} (hv : IsWidth j v) (hjk : j < k) : lead j v < lead k w :=
  calc
    lead j v < mark (j + 1) := hv.lead_lt_mark
    _ ≤ mark k := mark_mono hjk
    _ ≤ lead k w := Nat.le_add_left _ _

/-- Of two characters with different numbers of bytes, the shorter one has
the lesser code point. -/
theorem IsWidth.lt {j k v w : Nat} (hv : IsWidth j v) (hw : IsWidth k w) (hjk : j < k) : v < w :=
  Nat.lt_of_lt_of_le hv.lt_limit (hw.limit_le j hjk)

/-- A code point has one width. -/
theorem IsWidth.unique {j k v : Nat} (hj : IsWidth j v) (hk : IsWidth k v) : j = k := by
  rcases Nat.lt_trichotomy j k with hlt | heq | hgt
  · exact absurd (hj.lt hk hlt) (Nat.lt_irrefl v)
  · exact heq
  · exact absurd (hk.lt hj hgt) (Nat.lt_irrefl v)

/-- The further bytes are compared as the digits that they carry, and then
what follows them. -/
theorem compare_continuation (k v w : Nat) (rest rest' : List UInt8) :
    compare (continuation k v ++ rest) (continuation k w ++ rest')
      = (compare (v % 64 ^ k) (w % 64 ^ k)).then (compare rest rest') := by
  induction k generalizing v w rest rest' with
  | zero => simp [continuation, Nat.mod_one]
  | succ k ih =>
    have hdigit : ∀ n : Nat, n % 64 + 0x80 < 256 := by omega
    have hsplit := compare_div_mod 64 (v % 64 ^ (k + 1)) (w % 64 ^ (k + 1))
    rw [Nat.pow_succ', Nat.mod_mul_right_div_self, Nat.mod_mul_right_div_self,
      Nat.mod_mul_right_mod, Nat.mod_mul_right_mod] at hsplit
    rw [Nat.pow_succ', hsplit]
    simp only [continuation, List.append_assoc, List.singleton_append]
    rw [ih, List.compare_cons_cons, compare_ofNat (hdigit v) (hdigit w), compare_add_right,
      Ordering.then_assoc]

/-- The bytes of two characters compare like the code points, and what
follows decides only if they are the same. -/
theorem compare_encodeChar_append (c d : Char) (rest rest' : List UInt8) :
    compare (String.utf8EncodeChar c ++ rest) (String.utf8EncodeChar d ++ rest')
      = (compare c.toNat d.toNat).then (compare rest rest') := by
  obtain ⟨j, hj, hc⟩ := exists_isWidth c
  obtain ⟨k, hk, hd⟩ := exists_isWidth d
  rw [hc, hd, List.cons_append, List.cons_append, List.compare_cons_cons,
    compare_ofNat hj.lead_lt_size hk.lead_lt_size]
  rcases Nat.lt_trichotomy j k with hlt | rfl | hgt
  · -- The first character is the shorter one.
    rw [Nat.compare_eq_lt.mpr (hj.lead_lt hlt), Nat.compare_eq_lt.mpr (hj.lt hk hlt)]
    rfl
  · -- The lead bytes and the further bytes are all the digits there are.
    rw [lead, lead, compare_add_right, compare_continuation, ← Ordering.then_assoc,
      ← compare_div_mod]
  · rw [Nat.compare_eq_gt.mpr (hk.lead_lt hgt), Nat.compare_eq_gt.mpr (hk.lt hj hgt)]
    rfl

/-! ### Texts -/

/-- Characters are compared by their bytes as by their code points. -/
theorem compare_encode (cs ds : List Char) :
    compare (encode cs) (encode ds) = compare (cs.map Char.toNat) (ds.map Char.toNat) := by
  induction cs generalizing ds with
  | nil =>
    cases ds with
    | nil => rfl
    | cons d ds =>
      obtain ⟨b, bytes, hd⟩ := List.exists_cons_of_ne_nil (encodeChar_ne_nil d)
      rw [encode_cons, hd]
      rfl
  | cons c cs ih =>
    cases ds with
    | nil =>
      obtain ⟨b, bytes, hc⟩ := List.exists_cons_of_ne_nil (encodeChar_ne_nil c)
      rw [encode_cons, hc]
      rfl
    | cons d ds =>
      rw [encode_cons, encode_cons, compare_encodeChar_append, ih, List.map_cons, List.map_cons,
        List.compare_cons_cons]

/-- Texts are compared by their bytes as by their code points. -/
theorem compare_utf8 (s t : String) :
    compare (utf8 s) (utf8 t) = compare (codePoints s) (codePoints t) := by
  rw [utf8_eq_encode, utf8_eq_encode, compare_encode]
  rfl

-- By units of sixteen bits the order would be the other way round.
example : compare (utf8 "\uffff") (utf8 "😀") = .lt := by decide

end Roster.Text
