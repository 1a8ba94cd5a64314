import Roster.Documents.Server

/-!
# `Roster.Proofs.Documents.Order`: documents by identifier

The order of documents by a name is a total preorder, since it is the
order of keys (`Document.before_trans`, `Document.before_total`).
Identifiers that clients made up are ordered by their numbers.

`Ascending` says of some documents that they have such identifiers, all
below a bound, in the order in which they stand. Documents without an
identifier that get theirs counted up from the bound can be put after them
(`Ascending.append`). Sorting ascending documents changes nothing
(`Ascending.mergeSort_eq`).
-/

set_option autoImplicit false

namespace Roster.Documents

namespace Key

/-- Keys are compared at their first numbers, and then after them. -/
theorem upTo_cons_iff {x y : Rat} {a b : Key} :
    upTo (x :: a) (y :: b) = true ↔ x < y ∨ x = y ∧ upTo a b = true := by
  rw [upTo, Bool.or_eq_true, Bool.and_eq_true, decide_eq_true_eq, decide_eq_true_eq]

theorem upTo_trans {a b c : Key} (hab : a.upTo b = true) (hbc : b.upTo c = true) :
    a.upTo c = true := by
  induction a generalizing b c with
  | nil => rfl
  | cons x a ih =>
    cases b with
    | nil => cases hab
    | cons y b =>
      cases c with
      | nil => cases hbc
      | cons z c =>
        rw [upTo_cons_iff] at *
        rcases hab with hxy | ⟨rfl, hab⟩
        · rcases hbc with hyz | ⟨rfl, -⟩
          · exact .inl (Std.lt_trans hxy hyz)
          · exact .inl hxy
        · exact hbc.imp_right fun ⟨hyz, hbc⟩ => ⟨hyz, ih hab hbc⟩

theorem upTo_total (a b : Key) : a.upTo b = true ∨ b.upTo a = true := by
  induction a generalizing b with
  | nil => exact .inl rfl
  | cons x a ih =>
    cases b with
    | nil => exact .inr rfl
    | cons y b =>
      rw [upTo_cons_iff, upTo_cons_iff]
      rcases Std.lt_trichotomy x y with hlt | rfl | hgt
      · exact .inl (.inl hlt)
      · exact (ih b).imp (fun h => .inr ⟨rfl, h⟩) fun h => .inr ⟨rfl, h⟩
      · exact .inr (.inl hgt)

end Key

namespace Document

variable {name : String}

theorem before_trans (a b c : Document) (hab : a.before name b) (hbc : b.before name c) :
    a.before name c :=
  Key.upTo_trans hab hbc

theorem before_total (a b : Document) : (a.before name b || b.before name a) = true :=
  Bool.or_eq_true .. ▸ Key.upTo_total _ _

/-- The number of the identifier that a client made up for a document. -/
def HasNumber (d : Document) (n : Nat) : Prop :=
  d.lookup idName = some (.identifier n)

/-- The key of a document with an identifier that a client made up. -/
theorem HasNumber.keyOf_eq {d : Document} {n : Nat} (h : d.HasNumber n) :
    d.keyOf idName = [6, (n : Rat)] := by
  rw [keyOf, show d.lookup idName = _ from h]
  rfl

/-- Identifiers that clients made up are ordered by their numbers. -/
theorem before_of_le {a b : Document} {m n : Nat} (ha : a.HasNumber m) (hb : b.HasNumber n)
    (h : m ≤ n) : a.before idName b := by
  rw [before, ha.keyOf_eq, hb.keyOf_eq, Key.upTo_cons_iff, Key.upTo_cons_iff]
  rcases Nat.lt_or_eq_of_le h with hlt | rfl
  · exact .inr ⟨rfl, .inl (Rat.natCast_lt_natCast.mpr hlt)⟩
  · exact .inr ⟨rfl, .inr ⟨rfl, rfl⟩⟩

/-- A document without an identifier gets the number that is made up. -/
theorem hasNumber_identified {d : Document} (h : d.any (·.1 = idName) = false) (n : Nat) :
    (d.identified n).HasNumber n := by
  unfold identified HasNumber
  rw [h, if_neg Bool.false_ne_true]
  exact List.lookup_cons_self

end Document

/-- Documents have identifiers that clients made up, with numbers below a
bound, ascending in the order in which the documents stand. -/
structure Ascending (bound : Nat) (documents : List Document) : Prop where
  pairwise : documents.Pairwise fun a b => a.before Document.idName b
  numbered : ∀ d ∈ documents, ∃ n < bound, d.HasNumber n

namespace Ascending

variable {bound : Nat} {documents : List Document}

theorem nil (bound : Nat) : Ascending bound [] :=
  ⟨.nil, by simp⟩

/-- Ascending documents stay so when others are left out. -/
theorem sublist {part : List Document} (h : Ascending bound documents)
    (hsub : part.Sublist documents) : Ascending bound part :=
  ⟨h.pairwise.sublist hsub, fun d hd => h.numbered d (hsub.subset hd)⟩

/-- Numbers below a bound are below a greater one. -/
theorem mono {greater : Nat} (h : Ascending bound documents) (hle : bound ≤ greater) :
    Ascending greater documents where
  pairwise := h.pairwise
  numbered d hd := by
    obtain ⟨n, hlt, hn⟩ := h.numbered d hd
    exact ⟨n, Nat.lt_of_lt_of_le hlt hle, hn⟩

/-- Sorting ascending documents by identifier changes nothing. -/
theorem mergeSort_eq (h : Ascending bound documents) :
    documents.mergeSort (Document.before Document.idName) = documents :=
  List.mergeSort_of_pairwise h.pairwise

end Ascending

/-! ### Identifiers that are made up -/

variable {more : List Document}

/-- Documents without identifiers get the numbers that are counted up. -/
theorem hasNumber_of_mem_identify (hnew : ∀ d ∈ more, d.any (·.1 = Document.idName) = false)
    {first : Nat} {d : Document} (h : d ∈ Server.identify first more) :
    ∃ n, first ≤ n ∧ n < first + more.length ∧ d.HasNumber n := by
  induction more generalizing first with
  | nil => cases h
  | cons e rest ih =>
    obtain ⟨he, hrest⟩ := List.forall_mem_cons.mp hnew
    rw [List.length_cons]
    rcases List.mem_cons.mp h with rfl | h
    · exact ⟨first, Nat.le_refl _, by omega, Document.hasNumber_identified he first⟩
    · obtain ⟨n, hle, hlt, hn⟩ := ih hrest h
      exact ⟨n, by omega, by omega, hn⟩

/-- Documents that got their identifiers one after another are ascending. -/
theorem ascending_identify (hnew : ∀ d ∈ more, d.any (·.1 = Document.idName) = false)
    (first : Nat) : Ascending (first + more.length) (Server.identify first more) := by
  refine ⟨?_, fun d hd => ?_⟩
  · induction more generalizing first with
    | nil => exact .nil
    | cons e rest ih =>
      obtain ⟨he, hrest⟩ := List.forall_mem_cons.mp hnew
      refine .cons (fun d hd => ?_) (ih hrest (first + 1))
      obtain ⟨n, hle, -, hn⟩ := hasNumber_of_mem_identify hrest hd
      exact Document.before_of_le (Document.hasNumber_identified he first) hn (by omega)
  · obtain ⟨n, -, hlt, hn⟩ := hasNumber_of_mem_identify hnew hd
    exact ⟨n, hlt, hn⟩

/-- Documents whose identifiers are counted up from the bound come after
those below it. -/
theorem Ascending.append {bound : Nat} {documents : List Document}
    (h : Ascending bound documents)
    (hnew : ∀ d ∈ more, d.any (·.1 = Document.idName) = false) :
    Ascending (bound + more.length) (documents ++ Server.identify bound more) := by
  have hmore := ascending_identify hnew bound
  refine ⟨List.pairwise_append.mpr ⟨h.pairwise, hmore.pairwise, fun a ha b hb => ?_⟩,
    fun d hd => ?_⟩
  · obtain ⟨m, hlt, hm⟩ := h.numbered a ha
    obtain ⟨n, hle, -, hn⟩ := hasNumber_of_mem_identify hnew hb
    exact Document.before_of_le hm hn (by omega)
  · rcases List.mem_append.mp hd with hd | hd
    · exact (h.mono (Nat.le_add_right bound more.length)).numbered d hd
    · exact hmore.numbered d hd

end Roster.Documents
