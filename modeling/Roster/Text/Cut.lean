/-!
# `Roster.Text.Cut`: texts cut at a byte

A place in a text is counted in the bytes of the text's UTF-8 form. A
text can be cut there only between two characters.
-/

set_option autoImplicit false

namespace Roster.Text

/-- The number of bytes of some characters. -/
def byteCount : List Char → Nat
  | [] => 0
  | c :: cs => c.utf8Size + byteCount cs

/-- What stands before and after a number of bytes, unless the place is
within a character or beyond the end. -/
def cutAt? : Nat → List Char → Option (List Char × List Char)
  | 0, cs => some ([], cs)
  | _ + 1, [] => none
  | n + 1, c :: cs =>
    if c.utf8Size ≤ n + 1 then
      (cutAt? (n + 1 - c.utf8Size) cs).map fun p => (c :: p.1, p.2)
    else none

/-- Cutting loses nothing, and cuts where it is told to. -/
theorem eq_append_of_cutAt? {n : Nat} {cs front back : List Char}
    (h : cutAt? n cs = some (front, back)) : cs = front ++ back ∧ byteCount front = n := by
  induction cs generalizing n front with
  | nil =>
    cases n with
    | zero =>
      obtain ⟨rfl, rfl⟩ := Prod.mk.inj (Option.some.inj h)
      exact ⟨rfl, rfl⟩
    | succ n => simp [cutAt?] at h
  | cons c cs ih =>
    cases n with
    | zero =>
      obtain ⟨rfl, rfl⟩ := Prod.mk.inj (Option.some.inj h)
      exact ⟨rfl, rfl⟩
    | succ n =>
      simp only [cutAt?] at h
      split at h
      next hc =>
        obtain ⟨p, hp, he⟩ := Option.map_eq_some_iff.1 h
        obtain ⟨rfl, rfl⟩ := Prod.mk.inj he
        obtain ⟨hcs, hn⟩ := ih hp
        simp only [byteCount] at hn ⊢
        exact ⟨by rw [hcs]; rfl, by omega⟩
      next => cases h

end Roster.Text
