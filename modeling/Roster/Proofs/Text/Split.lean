import Mathlib.Data.List.TakeDrop
import Roster.Text.Split

/-!
# `Roster.Proofs.Text.Split`: what a cut leaves

A text is cut at the first of a character exactly if what comes before
has none of it, and at the last if what comes after has none. So there is
one way to cut it, which `append_cons_inj` says of two spellings of one
text. Cut at every occurrence, a text comes apart into the parts that it
was joined from (`splitAll_intercalate`).
-/

set_option autoImplicit false

namespace Roster.Text

variable {c x : Char} {cs before after : List Char}

/-- Another character at the front stays at the front. -/
theorem splitFirst?_cons_of_ne (h : x ≠ c) :
    splitFirst? c (x :: cs) = (splitFirst? c cs).map fun p => (x :: p.1, p.2) := by
  simp only [splitFirst?, List.span_eq_takeWhile_dropWhile]
  rw [List.takeWhile_cons_of_pos (by simpa using h), List.dropWhile_cons_of_pos (by simpa using h)]
  cases List.dropWhile (fun x => decide (x ≠ c)) cs <;> rfl

/-- The character at the front is where the text is cut. -/
theorem splitFirst?_cons_self (c : Char) (cs : List Char) :
    splitFirst? c (c :: cs) = some ([], cs) := by
  simp only [splitFirst?, List.span_eq_takeWhile_dropWhile]
  rw [List.takeWhile_cons_of_neg (by simp), List.dropWhile_cons_of_neg (by simp)]

/-- A text is cut at the first of a character. -/
theorem splitFirst?_eq_some_iff :
    splitFirst? c cs = some (before, after) ↔ cs = before ++ c :: after ∧ c ∉ before := by
  induction cs generalizing before with
  | nil => exact iff_of_false nofun fun h => by simp at h
  | cons x cs ih =>
    by_cases hx : x = c
    · subst hx
      rw [splitFirst?_cons_self]
      constructor
      · intro h
        cases h
        exact ⟨rfl, List.not_mem_nil⟩
      · rintro ⟨hcs, hbefore⟩
        cases before with
        | nil =>
          cases hcs
          rfl
        | cons y _ =>
          obtain ⟨rfl, _⟩ := List.cons.inj hcs
          exact absurd List.mem_cons_self hbefore
    · rw [splitFirst?_cons_of_ne hx, Option.map_eq_some_iff]
      constructor
      · rintro ⟨⟨front, back⟩, hcut, hparts⟩
        obtain ⟨rfl, rfl⟩ := Prod.mk.inj hparts
        obtain ⟨rfl, hfront⟩ := ih.mp hcut
        refine ⟨rfl, fun hmem => ?_⟩
        rcases List.mem_cons.mp hmem with heq | hmem
        · exact hx heq.symm
        · exact hfront hmem
      · rintro ⟨hcs, hbefore⟩
        cases before with
        | nil => exact absurd (List.cons.inj hcs).1 hx
        | cons y front =>
          obtain ⟨rfl, hrest⟩ := List.cons.inj hcs
          exact ⟨(front, after),
            ih.mpr ⟨hrest, fun hmem => hbefore (List.mem_cons_of_mem _ hmem)⟩, rfl⟩

/-- A text without the character is not cut. -/
theorem splitFirst?_eq_none_iff : splitFirst? c cs = none ↔ c ∉ cs := by
  constructor
  · intro h hmem
    -- A text with the character has a first one.
    obtain ⟨front, back, rfl, hfront⟩ := List.eq_append_cons_of_mem hmem
    exact nomatch h.symm.trans (splitFirst?_eq_some_iff.mpr ⟨rfl, hfront⟩)
  · intro h
    cases hcut : splitFirst? c cs with
    | none => rfl
    | some p =>
      obtain ⟨hcs, _⟩ := splitFirst?_eq_some_iff.mp hcut
      exact absurd (by simp [hcs]) h

/-- A text is cut at the last of a character. -/
theorem splitLast?_eq_some_iff :
    splitLast? c cs = some (before, after) ↔ cs = before ++ c :: after ∧ c ∉ after := by
  unfold splitLast?
  rw [Option.map_eq_some_iff]
  constructor
  · rintro ⟨⟨front, back⟩, hcut, hparts⟩
    obtain ⟨rfl, rfl⟩ := Prod.mk.inj hparts
    obtain ⟨hcs, hfront⟩ := splitFirst?_eq_some_iff.mp hcut
    refine ⟨?_, by simpa using hfront⟩
    rw [← List.reverse_reverse cs, hcs]
    simp
  · rintro ⟨rfl, hafter⟩
    refine ⟨(after.reverse, before.reverse), splitFirst?_eq_some_iff.mpr ⟨?_, ?_⟩, ?_⟩
    · simp
    · simpa using hafter
    · simp

/-- A text without the character is not cut at the last one either. -/
theorem splitLast?_eq_none_iff : splitLast? c cs = none ↔ c ∉ cs := by
  unfold splitLast?
  rw [Option.map_eq_none_iff, splitFirst?_eq_none_iff, List.mem_reverse]

/-- A text without the character is one part. -/
theorem splitAll_eq_self (h : c ∉ cs) : splitAll c cs = [cs] := by
  induction cs with
  | nil => rfl
  | cons x rest ih =>
    obtain ⟨hx, hrest⟩ := List.ne_and_not_mem_of_not_mem_cons h
    have hread := ih hrest
    unfold splitAll at hread ⊢
    rw [List.foldr_cons, if_neg hx.symm, hread]

/-- What comes before the first of a character is the first part. -/
theorem splitAll_append_cons (h : c ∉ before) :
    splitAll c (before ++ c :: after) = before :: splitAll c after := by
  induction before with
  | nil => exact if_pos rfl
  | cons x rest ih =>
    obtain ⟨hx, hrest⟩ := List.ne_and_not_mem_of_not_mem_cons h
    have hread := ih hrest
    unfold splitAll at hread ⊢
    rw [List.cons_append, List.foldr_cons, if_neg hx.symm, hread]

/-- Parts that are joined come apart again. -/
theorem splitAll_intercalate {parts : List (List Char)} (hne : parts ≠ [])
    (h : ∀ part ∈ parts, c ∉ part) : splitAll c ([c].intercalate parts) = parts := by
  induction parts with
  | nil => exact absurd rfl hne
  | cons part rest ih =>
    obtain ⟨hpart, hrest⟩ := List.forall_mem_cons.mp h
    cases rest with
    | nil =>
      rw [List.intercalate_singleton]
      exact splitAll_eq_self hpart
    | cons next rest =>
      rw [List.intercalate_cons_cons, List.append_assoc]
      exact (splitAll_append_cons hpart).trans (congrArg _ (ih (by simp) hrest))

/-- Two spellings of one text have the same parts, if the first parts do
not have the character between them. -/
theorem append_cons_inj {front back front' back' : List Char} (h : c ∉ front) (h' : c ∉ front')
    (heq : front ++ c :: back = front' ++ c :: back') : front = front' ∧ back = back' := by
  have hcut : splitFirst? c (front' ++ c :: back') = some (front, back) :=
    splitFirst?_eq_some_iff.mpr ⟨heq.symm, h⟩
  have hcut' : splitFirst? c (front' ++ c :: back') = some (front', back') :=
    splitFirst?_eq_some_iff.mpr ⟨rfl, h'⟩
  exact Prod.mk.inj (Option.some.inj (hcut.symm.trans hcut'))

end Roster.Text
