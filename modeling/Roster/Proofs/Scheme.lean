import Mathlib.Data.List.Infix
import Roster.Scheme

/-!
# `Roster.Proofs.Scheme`: the scheme is what stands before the first separator

A URL is cut at the first separator (`firstCut_of_beforeSeparator?`), and
there is one first cut (`FirstCut.unique`), wherever separators follow and
whatever they overlap with. A URL without a separator is not cut
(`not_infix_of_beforeSeparator?`). So `isScheme_iff` says which scheme a
URL has without saying how it is found.

The scheme itself holds no separator (`not_infix_scheme`): what is told of
a URL by its scheme is told of nothing behind the separator.
-/

set_option autoImplicit false

namespace Roster

variable {cs before : List Char}

/-- Some characters stand before a separator, and before the first of
them. -/
structure FirstCut (cs before : List Char) : Prop where
  spelled : ∃ after, cs = before ++ schemeSeparator ++ after
  first : ∀ before' after', cs = before' ++ schemeSeparator ++ after' →
    before.length ≤ before'.length

/-- There is one first cut. -/
theorem FirstCut.unique {before' : List Char} (h : FirstCut cs before)
    (h' : FirstCut cs before') : before = before' := by
  obtain ⟨after, hcs⟩ := h.spelled
  obtain ⟨after', hcs'⟩ := h'.spelled
  have hlength := Nat.le_antisymm (h.first _ _ hcs') (h'.first _ _ hcs)
  rw [hcs, List.append_assoc, List.append_assoc] at hcs'
  exact List.append_inj_left hcs' hlength

/-- What stands before the first separator holds none. -/
theorem FirstCut.separatorFree (h : FirstCut cs before) : ¬ schemeSeparator <:+: before := by
  rintro ⟨front, back, rfl⟩
  obtain ⟨after, hcs⟩ := h.spelled
  have hle := h.first front (back ++ schemeSeparator ++ after) (by simpa using hcs)
  have hthree : schemeSeparator.length = 3 := rfl
  rw [List.length_append, List.length_append, hthree] at hle
  omega

/-- A separator further back stands behind one more character. -/
theorem FirstCut.cons (c : Char) (hfirst : ¬ schemeSeparator <+: c :: cs)
    (h : FirstCut cs before) : FirstCut (c :: cs) (c :: before) where
  spelled := by
    obtain ⟨after, rfl⟩ := h.spelled
    exact ⟨after, rfl⟩
  first before' after' hcs := by
    cases before' with
    | nil => exact absurd ⟨after', hcs.symm⟩ hfirst
    | cons c' front =>
      obtain ⟨-, hrest⟩ := List.cons.inj hcs
      exact Nat.succ_le_succ (h.first front after' hrest)

/-- A URL is cut at the first separator. -/
theorem firstCut_of_beforeSeparator? (h : beforeSeparator? cs = some before) :
    FirstCut cs before := by
  induction cs generalizing before with
  | nil => cases h
  | cons c cs ih =>
    rw [beforeSeparator?] at h
    split at h
    · -- The separator is in front.
      rename_i hfront
      cases h
      obtain ⟨after, hafter⟩ := List.isPrefixOf_iff_prefix.mp hfront
      exact ⟨⟨after, by simp [hafter]⟩, fun _ _ _ => Nat.zero_le _⟩
    · rename_i hfront
      obtain ⟨front, hcut, rfl⟩ := Option.map_eq_some_iff.mp h
      exact (ih hcut).cons c fun hhere => hfront (List.isPrefixOf_iff_prefix.mpr hhere)

/-- A URL that is not cut has no separator. -/
theorem not_infix_of_beforeSeparator? (h : beforeSeparator? cs = none) :
    ¬ schemeSeparator <:+: cs := by
  induction cs with
  | nil => simp [schemeSeparator]
  | cons c cs ih =>
    rw [beforeSeparator?] at h
    split at h
    · cases h
    · rename_i hfront
      rw [List.infix_cons_iff]
      rintro (hhere | hlater)
      · exact hfront (List.isPrefixOf_iff_prefix.mpr hhere)
      · exact ih (Option.map_eq_none_iff.mp h) hlater

/-- The scheme of a URL: what stands before the first separator, or nothing
if there is no separator. -/
inductive IsScheme (url : String) : String → Prop
  | before {name : List Char} (cut : FirstCut url.toList name) :
      IsScheme url (String.ofList name)
  | missing (none : ¬ schemeSeparator <:+: url.toList) : IsScheme url ""

/-- A URL has its scheme and no other. -/
theorem isScheme_iff {url name : String} : IsScheme url name ↔ scheme url = name := by
  unfold scheme
  cases hcut : beforeSeparator? url.toList with
  | some before =>
    have hfirst := firstCut_of_beforeSeparator? hcut
    constructor
    · rintro (⟨hname⟩ | hnone)
      · rw [Option.getD_some, hfirst.unique hname]
      · obtain ⟨after, hurl⟩ := hfirst.spelled
        exact absurd ⟨before, after, hurl.symm⟩ hnone
    · rintro rfl
      exact .before hfirst
  | none =>
    have hnone := not_infix_of_beforeSeparator? hcut
    constructor
    · rintro (⟨hname⟩ | _)
      · obtain ⟨after, hurl⟩ := hname.spelled
        exact absurd ⟨_, after, hurl.symm⟩ hnone
      · rfl
    · rintro rfl
      exact .missing hnone

-- Colons before the separator belong to the scheme; later separators do not count.
example : scheme "a:://b://c" = "a:" := by decide

/-- The scheme holds no separator. -/
theorem not_infix_scheme (url : String) : ¬ schemeSeparator <:+: (scheme url).toList := by
  generalize hname : scheme url = name
  cases isScheme_iff.mpr hname with
  | before cut => simpa using cut.separatorFree
  | missing _ => simp [schemeSeparator]

/-- A URL with a separator begins with its scheme and the separator. -/
theorem begins_with_scheme {url : String} (h : schemeSeparator <:+: url.toList) :
    (scheme url).toList ++ schemeSeparator <+: url.toList := by
  generalize hname : scheme url = name
  cases isScheme_iff.mpr hname with
  | before cut =>
    obtain ⟨after, hurl⟩ := cut.spelled
    exact ⟨after, by simp [hurl]⟩
  | missing none => exact absurd h none

end Roster
