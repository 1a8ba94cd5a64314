import Mathlib.Data.List.Induction
import Roster.Json.Progress
import Roster.Proofs.Text.Encoding

/-!
# `Roster.Proofs.Json.Run`: reading some bytes

`Goes` says that a reader gets from one state to another over some bytes
without handing back a result, `Takes` that it answers the last of some
bytes with a given result, and `Fails` that it fails at one of them. All
are about the step function alone, so that they serve readers of texts
and readers that are parts of others: a part's run is a run of the whole
around it (`Goes.lift`).

Two principles are used throughout. `Goes.invariant` is the induction
over what was read: what a reader's state tells about the characters
before it has to be shown for one more character, which is one byte or
some wide bytes. `Goes.blanks` lets a state wait.
-/

set_option autoImplicit false

namespace Roster.Json

open Text (encode IsAscii IsWide)

/-- A changed answer comes from an answer. -/
theorem answer_of_map {α β : Type} {answer : Except Error α} {f : α → β} {b : β}
    (h : answer.map f = .ok b) : ∃ a, answer = .ok a ∧ f a = b := by
  cases answer with
  | error e => cases h
  | ok a => exact ⟨a, rfl, Except.ok.inj h⟩

section
variable {σ ρ : Type} {step : σ → UInt8 → Except Error ρ} {more : σ → ρ}

/-- A reader gets from one state to another over some bytes. `more`
tells which answers are states. -/
inductive Goes (step : σ → UInt8 → Except Error ρ) (more : σ → ρ) : σ → List UInt8 → σ → Prop
  | nil (s : σ) : Goes step more s [] s
  | cons {s middle s' : σ} {b : UInt8} {rest : List UInt8} (hstep : step s b = .ok (more middle))
      (hrest : Goes step more middle rest s') : Goes step more s (b :: rest) s'

/-- A reader answers the last of some bytes with a result. -/
def Takes (step : σ → UInt8 → Except Error ρ) (more : σ → ρ) (s : σ) (read : List UInt8)
    (result : ρ) : Prop :=
  ∃ front last middle, read = front ++ [last] ∧ Goes step more s front middle ∧
    step middle last = .ok result

/-- A reader fails at one of some bytes. What comes after that byte does
not count. -/
def Fails (step : σ → UInt8 → Except Error ρ) (more : σ → ρ) (s : σ) (read : List UInt8)
    (e : Error) : Prop :=
  ∃ front last rest middle, read = front ++ last :: rest ∧ Goes step more s front middle ∧
    step middle last = .error e

/-- One byte. -/
theorem Goes.single {s s' : σ} {b : UInt8} (h : step s b = .ok (more s')) :
    Goes step more s [b] s' :=
  .cons h (.nil s')

/-- One run after another. -/
theorem Goes.append {s middle s' : σ} {first rest : List UInt8}
    (h : Goes step more s first middle) (hrest : Goes step more middle rest s') :
    Goes step more s (first ++ rest) s' := by
  induction h with
  | nil => exact hrest
  | cons hstep _ ih => exact .cons hstep (ih hrest)

/-- One more byte. -/
theorem Goes.snoc {s middle s' : σ} {front : List UInt8} {b : UInt8}
    (h : Goes step more s front middle) (hstep : step middle b = .ok (more s')) :
    Goes step more s (front ++ [b]) s' :=
  h.append (.single hstep)

/-- A run over one part and then another. -/
theorem Goes.split {s s' : σ} {first rest : List UInt8}
    (h : Goes step more s (first ++ rest) s') :
    ∃ middle, Goes step more s first middle ∧ Goes step more middle rest s' := by
  induction first generalizing s with
  | nil => exact ⟨s, .nil s, h⟩
  | cons b first ih =>
    cases h with
    | cons hstep hrest =>
      obtain ⟨middle, hfirst, hsecond⟩ := ih hrest
      exact ⟨middle, .cons hstep hfirst, hsecond⟩

/-- An answer to the last byte. -/
theorem Goes.takes {s middle : σ} {front : List UInt8} {last : UInt8} {result : ρ}
    (h : Goes step more s front middle) (hstep : step middle last = .ok result) :
    Takes step more s (front ++ [last]) result :=
  ⟨front, last, middle, rfl, h, hstep⟩

/-- An answer that is a state is a run. -/
theorem Takes.goes {s s' : σ} {read : List UInt8} (h : Takes step more s read (more s')) :
    Goes step more s read s' := by
  obtain ⟨front, last, middle, rfl, hfront, hlast⟩ := h
  exact hfront.snoc hlast

/-- An answer to the last byte, after a run. -/
theorem Goes.append_takes {s middle : σ} {front read : List UInt8} {result : ρ}
    (h : Goes step more s front middle) (hread : Takes step more middle read result) :
    Takes step more s (front ++ read) result := by
  obtain ⟨before, last, s', rfl, hbefore, hlast⟩ := hread
  exact ⟨front ++ before, last, s', (List.append_assoc ..).symm, h.append hbefore, hlast⟩

/-- A failure at the first byte. -/
theorem Fails.first {s : σ} {b : UInt8} {e : Error} (h : step s b = .error e)
    (rest : List UInt8) : Fails step more s (b :: rest) e :=
  ⟨[], b, rest, s, rfl, .nil s, h⟩

/-- A failure after a run. -/
theorem Goes.append_fails {s middle : σ} {front read : List UInt8} {e : Error}
    (h : Goes step more s front middle) (hread : Fails step more middle read e) :
    Fails step more s (front ++ read) e := by
  obtain ⟨before, last, rest, s', rfl, hbefore, hlast⟩ := hread
  exact ⟨front ++ before, last, rest, s', (List.append_assoc ..).symm, h.append hbefore, hlast⟩

/-- A failure stays whatever follows. -/
theorem Fails.append {s : σ} {read : List UInt8} {e : Error} (h : Fails step more s read e)
    (more' : List UInt8) : Fails step more s (read ++ more') e := by
  obtain ⟨front, last, rest, middle, rfl, hfront, hlast⟩ := h
  exact ⟨front, last, rest ++ more', middle, by simp, hfront, hlast⟩

/-- Where two states answer the first byte alike, they answer the rest
alike. -/
theorem Goes.of_first {s t s' : σ} {b : UInt8} {rest : List UInt8}
    (hsame : step t b = step s b) (h : Goes step more s (b :: rest) s') :
    Goes step more t (b :: rest) s' := by
  cases h with
  | cons hstep hrest => exact .cons (hsame.trans hstep) hrest

/-- Where two states answer the first byte alike, they answer the last
alike. -/
theorem Takes.of_first {s t : σ} {b : UInt8} {rest : List UInt8} {result : ρ}
    (hsame : step t b = step s b) (h : Takes step more s (b :: rest) result) :
    Takes step more t (b :: rest) result := by
  obtain ⟨front, last, middle, hread, hfront, hlast⟩ := h
  cases front with
  | nil =>
    obtain ⟨rfl, rfl⟩ := List.cons.inj hread
    cases hfront
    exact ⟨[], b, t, rfl, .nil t, hsame.trans hlast⟩
  | cons first front =>
    obtain ⟨rfl, rfl⟩ := List.cons.inj hread
    exact ⟨b :: front, last, middle, rfl, hfront.of_first hsame, hlast⟩

section
variable {σ' ρ' : Type} {step' : σ' → UInt8 → Except Error ρ'} {more' : σ' → ρ'}

/-- A run of a part is a run of the whole. -/
theorem Goes.lift (inside : σ → σ')
    (hmore : ∀ s b s', step s b = .ok (more s') →
      step' (inside s) b = .ok (more' (inside s')))
    {s s' : σ} {read : List UInt8} (h : Goes step more s read s') :
    Goes step' more' (inside s) read (inside s') := by
  induction h with
  | nil => exact .nil _
  | cons hstep _ ih => exact .cons (hmore _ _ _ hstep) ih

/-- A run of the whole is a run of a part, as long as the whole stays
inside the part. `Stays` is what the part's states keep to. -/
theorem Goes.unlift (inside : σ → σ') (Stays : σ → Prop) (P : UInt8 → Prop)
    (hstays : ∀ s b s', Stays s → P b → step' (inside s) b = .ok (more' s') →
      ∃ t, s' = inside t ∧ step s b = .ok (more t) ∧ Stays t)
    {s : σ} {s' : σ'} {read : List UInt8} (hs : Stays s) (hread : ∀ b ∈ read, P b)
    (h : Goes step' more' (inside s) read s') :
    ∃ t, s' = inside t ∧ Goes step more s read t := by
  induction read generalizing s with
  | nil =>
    cases h
    exact ⟨s, rfl, .nil s⟩
  | cons b rest ih =>
    obtain ⟨hb, hrest⟩ := List.forall_mem_cons.mp hread
    cases h with
    | cons hstep hgoes =>
      obtain ⟨t, rfl, hpart, ht⟩ := hstays _ _ _ hs hb hstep
      obtain ⟨t', rfl, hmore⟩ := ih ht hrest hgoes
      exact ⟨t', rfl, .cons hpart hmore⟩

/-- The last answer of a part is an answer of the whole. -/
theorem Takes.lift (inside : σ → σ')
    (hmore : ∀ s b s', step s b = .ok (more s') →
      step' (inside s) b = .ok (more' (inside s')))
    {s : σ} {read : List UInt8} {result : ρ} {result' : ρ'}
    (hlast : ∀ s b, step s b = .ok result → step' (inside s) b = .ok result')
    (h : Takes step more s read result) : Takes step' more' (inside s) read result' := by
  obtain ⟨front, last, middle, rfl, hfront, hstep⟩ := h
  exact ⟨front, last, inside middle, rfl, hfront.lift inside hmore, hlast _ _ hstep⟩

/-- A failure of a part is a failure of the whole. -/
theorem Fails.lift (inside : σ → σ')
    (hmore : ∀ s b s', step s b = .ok (more s') →
      step' (inside s) b = .ok (more' (inside s')))
    {s : σ} {read : List UInt8} {e : Error}
    (herror : ∀ s b, step s b = .error e → step' (inside s) b = .error e)
    (h : Fails step more s read e) : Fails step' more' (inside s) read e := by
  obtain ⟨front, last, rest, middle, rfl, hfront, hlast⟩ := h
  exact ⟨front, last, rest, inside middle, rfl, hfront.lift inside hmore, herror _ _ hlast⟩

end

/-! ### Characters -/

/-- One ASCII character. -/
theorem Goes.char {s s' : σ} {c : Char} (hc : IsAscii c)
    (h : step s (byte c) = .ok (more s')) : Goes step more s (encode [c]) s' := by
  rw [Text.encode_singleton, Text.encodeChar_ascii hc]
  exact .single h

/-- Of bytes that are read the first is answered. -/
theorem Goes.first_wide {s s' : σ} {read : List UInt8} (hwide : ∀ b ∈ read, IsWide b)
    (hsome : read ≠ []) (h : Goes step more s read s') :
    ∃ b middle, IsWide b ∧ step s b = .ok (more middle) := by
  cases h with
  | nil => exact absurd rfl hsome
  | cons hstep _ => exact ⟨_, _, hwide _ List.mem_cons_self, hstep⟩

/-- What a reader's state tells about the characters before it holds after
all of them if one more character keeps it. -/
theorem Goes.invariant {start : σ} (Seen : σ → List Char → Prop) (hstart : Seen start [])
    (hascii : ∀ s s' cs c, IsAscii c → Seen s cs → step s (byte c) = .ok (more s') →
      Seen s' (cs ++ [c]))
    (hwide : ∀ s s' cs c, (∀ b ∈ encode [c], IsWide b) → encode [c] ≠ [] → Seen s cs →
      Goes step more s (encode [c]) s' → Seen s' (cs ++ [c]))
    {s : σ} {cs : List Char} (h : Goes step more start (encode cs) s) : Seen s cs := by
  induction cs using List.reverseRecOn generalizing s with
  | nil =>
    cases h
    exact hstart
  | append_singleton cs c ih =>
    rw [Text.encode_append] at h
    obtain ⟨middle, hcs, hc⟩ := h.split
    by_cases hkind : IsAscii c
    · rw [Text.encode_singleton, Text.encodeChar_ascii hkind] at hc
      cases hc with
      | cons hstep hrest =>
        cases hrest
        exact hascii _ _ cs c hkind (ih hcs) hstep
    · have hbytes := Text.encode_singleton c
      refine hwide _ _ cs c ?_ ?_ (ih hcs) hc
      · rw [hbytes]
        exact Text.wide_of_mem_encodeChar hkind
      · rw [hbytes]
        exact Text.encodeChar_ne_nil c

end

/-- The state of a reader of whole texts after some bytes. -/
theorem Reader.after_eq_ok {σ α : Type} (r : Reader σ α) {s s' : σ} {read : List UInt8} :
    r.after s read = .ok s' ↔ Goes r.step id s read s' := by
  induction read generalizing s with
  | nil =>
    constructor
    · intro h
      cases h
      exact .nil _
    · intro h
      cases h
      rfl
  | cons b rest ih =>
    have hcons : r.after s (b :: rest) = r.step s b >>= (r.after · rest) := List.foldlM_cons
    rw [hcons]
    cases hstep : r.step s b with
    | error e =>
      refine ⟨nofun, fun h => ?_⟩
      cases h with
      | cons hmore _ => exact nomatch hstep.symm.trans hmore
    | ok middle =>
      refine ih.trans ⟨fun h => .cons hstep h, fun h => ?_⟩
      cases h with
      | cons hmore hrest =>
        obtain rfl : middle = _ := Except.ok.inj (hstep.symm.trans hmore)
        exact hrest

/-- A failure at one of the bytes of a text is what the text means. -/
theorem Reader.run_of_fails {σ α : Type} (r : Reader σ α) {read : List UInt8} {e : Error}
    (h : Fails r.step id r.start read e) : r.run read = .error e := by
  obtain ⟨front, last, rest, middle, rfl, hfront, hlast⟩ := h
  have hcons : r.after middle (last :: rest) = r.step middle last >>= (r.after · rest) :=
    List.foldlM_cons
  rw [run, r.after_append, r.after_eq_ok.mpr hfront]
  change (r.after middle (last :: rest) >>= r.finish) = _
  rw [hcons, hlast]
  rfl

/-- What a text means, by the state that it leads to. -/
theorem Reader.run_eq_ok {σ α : Type} (r : Reader σ α) {read : List UInt8} {a : α} :
    r.run read = .ok a ↔ ∃ s, Goes r.step id r.start read s ∧ r.finish s = .ok a := by
  unfold run
  cases hafter : r.after r.start read with
  | error e =>
    refine ⟨nofun, fun ⟨s, hgoes, _⟩ => ?_⟩
    exact nomatch hafter.symm.trans (r.after_eq_ok.mpr hgoes)
  | ok s =>
    refine ⟨fun h => ⟨s, r.after_eq_ok.mp hafter, h⟩, fun ⟨s', hgoes, hfinish⟩ => ?_⟩
    obtain rfl : s = s' := Except.ok.inj (hafter.symm.trans (r.after_eq_ok.mpr hgoes))
    exact hfinish

end Roster.Json
