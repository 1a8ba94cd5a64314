import Roster.Text.Percent

/-!
# `Roster.Proofs.Text.Percent`: what percent-encoded bytes spell

`Percent.Spells` says what percent-encoded bytes stand for, without
reading them: a percent sign with two hexadecimal digits after it spells
one byte, and every other byte spells itself. Each byte sequence spells
just one, the one that is read from it (`spells_iff`).
-/

set_option autoImplicit false

namespace Roster.Text.Percent

/-- A byte is a hexadecimal digit, in either case. The number of a digit is
its place among the sixteen. -/
def IsDigit (b : UInt8) (n : Nat) : Prop :=
  (utf8 "0123456789abcdef")[n]? = some b ∨ (utf8 "0123456789ABCDEF")[n]? = some b

instance (b : UInt8) (n : Nat) : Decidable (IsDigit b n) :=
  inferInstanceAs (Decidable (_ ∨ _))

/-- What some bytes spell. -/
inductive Spells : List UInt8 → List UInt8 → Prop where
  | nil : Spells [] []
  /-- A percent sign with two digits after it. -/
  | encoded {a b : UInt8} {x y : Nat} {rest bytes : List UInt8} (ha : IsDigit a x)
      (hb : IsDigit b y) (h : Spells rest bytes) :
      Spells (0x25 :: a :: b :: rest) ((16 * x + y).toUInt8 :: bytes)
  /-- Anything else, and a percent sign without two digits after it. -/
  | itself {b : UInt8} {rest bytes : List UInt8}
      (hb : b = 0x25 → ∀ c d tail x y, rest = c :: d :: tail → ¬(IsDigit c x ∧ IsDigit d y))
      (h : Spells rest bytes) : Spells (b :: rest) (b :: bytes)

/-- A digit is a digit by its number. -/
theorem isDigit_iff {b : UInt8} {n : Nat} : IsDigit b n ↔ hexValue? b = some n := by
  constructor
  · -- There are only sixteen digits in either case.
    have hlower : ∀ n < 16, ∀ b ∈ (utf8 "0123456789abcdef")[n]?, hexValue? b = some n := by
      decide +kernel
    have hupper : ∀ n < 16, ∀ b ∈ (utf8 "0123456789ABCDEF")[n]?, hexValue? b = some n := by
      decide +kernel
    rintro (h | h)
    · exact hlower n (List.getElem?_eq_some_iff.mp h).1 b h
    · exact hupper n (List.getElem?_eq_some_iff.mp h).1 b h
  · have hbytes : ∀ k : Fin 256, ∀ n ∈ hexValue? (UInt8.ofNat k), IsDigit (UInt8.ofNat k) n := by
      decide +kernel
    intro h
    have hb : UInt8.ofNat (⟨b.toNat, b.toNat_lt⟩ : Fin 256) = b := UInt8.ofNat_toNat
    exact hb ▸ hbytes ⟨b.toNat, b.toNat_lt⟩ n (hb.symm ▸ h)

/-- Some bytes spell those that are read from them, and no others. -/
theorem spells_iff {text bytes : List UInt8} : Spells text bytes ↔ decodeBytes text = bytes := by
  induction text using decodeBytes.induct generalizing bytes with
  | case1 a b rest x y hy hx ih =>
    rw [decodeBytes, hx, hy]
    constructor
    · intro h
      cases h with
      | encoded ha hb h =>
        obtain rfl := Option.some.inj (hx.symm.trans (isDigit_iff.mp ha))
        obtain rfl := Option.some.inj (hy.symm.trans (isDigit_iff.mp hb))
        exact congrArg _ (ih.mp h)
      | itself hno _ =>
        exact absurd ⟨isDigit_iff.mpr hx, isDigit_iff.mpr hy⟩ (hno rfl a b rest x y rfl)
    · rintro rfl
      exact .encoded (isDigit_iff.mpr hx) (isDigit_iff.mpr hy) (ih.mpr rfl)
  | case2 a b rest hno ih =>
    -- The percent sign stands for itself.
    have hread : decodeBytes (0x25 :: a :: b :: rest) = 0x25 :: decodeBytes (a :: b :: rest) := by
      rw [decodeBytes]
      split
      · rename_i x y hx hy
        exact (hno x y hx hy).elim
      · rfl
    rw [hread]
    constructor
    · intro h
      cases h with
      | encoded ha hb _ => exact (hno _ _ (isDigit_iff.mp ha) (isDigit_iff.mp hb)).elim
      | itself _ h => exact congrArg _ (ih.mp h)
    · rintro rfl
      refine .itself (fun _ c d tail x y heq hdigits => ?_) (ih.mpr rfl)
      cases heq
      exact hno x y (isDigit_iff.mp hdigits.1) (isDigit_iff.mp hdigits.2)
  | case3 b rest hno ih =>
    rw [decodeBytes.eq_2 b rest hno]
    constructor
    · intro h
      cases h with
      | encoded _ _ _ => exact (hno _ _ _ rfl rfl).elim
      | itself _ h => exact congrArg _ (ih.mp h)
    · rintro rfl
      exact .itself (fun hb c d tail _ _ heq => (hno c d tail hb heq).elim) (ih.mpr rfl)
  | case4 =>
    rw [decodeBytes]
    constructor
    · intro h
      cases h
      rfl
    · rintro rfl
      exact .nil

end Roster.Text.Percent
