import Roster.Proofs.Json.Byte

/-!
# `Roster.Proofs.Json.Number`: numbers are read by their grammar

`Spells` says which part of a number is reached over some characters.
A part where a number may end is reached over exactly the numbers of the
grammar (`spells_complete_iff`).

`NumberPart.Seen` is what each part says about the characters before it;
one more character keeps it (`seen_next`). For the other direction the
pieces of a number are spelled one after the other. That a number ends
only where it may is `isComplete_of_ends`.
-/

set_option autoImplicit false

namespace Roster.Json

open Text (IsAscii)

variable {c : Char} {n : List Char} {part part' : NumberPart}

/-- The part that a byte belongs to is the last one. -/
theorem Numeral.push_part (n : Numeral) (part : NumberPart) (b : UInt8) :
    (n.push part b).part = part := by
  cases part <;> rfl

/-- A part of a number is reached over some characters. -/
inductive Spells : NumberPart → List Char → Prop where
  | first (c : Char) (part : NumberPart) (hascii : IsAscii c)
      (h : NumberPart.first? (byte c) = some part) : Spells part [c]
  | next {part : NumberPart} {n : List Char} (hpart : Spells part n) (c : Char)
      (part' : NumberPart) (hascii : IsAscii c) (h : part.next (byte c) = .more part') :
      Spells part' (n ++ [c])

/-- A number that may end with zero or with a digit after it. -/
def Front (n : List Char) : Prop :=
  ∃ sign whole, (sign = [] ∨ sign = ['-']) ∧ Whole whole ∧ n = sign ++ whole

/-- A number without an exponent. -/
def Mantissa (n : List Char) : Prop :=
  ∃ front fraction, Front front ∧ Fraction fraction ∧ n = front ++ fraction

theorem Front.mantissa (h : Front n) : Mantissa n :=
  ⟨n, [], h, .none, (List.append_nil n).symm⟩

theorem Mantissa.number (h : Mantissa n) {exponent : List Char} (hexponent : Exponent exponent) :
    Number (n ++ exponent) := by
  obtain ⟨_, fraction, ⟨sign, whole, hsign, hwhole, rfl⟩, hfraction, rfl⟩ := h
  exact .mk sign whole fraction exponent hsign hwhole hfraction hexponent

theorem Digits.snoc {ds : List Char} (h : ∀ d ∈ ds, d.isDigit = true)
    (hc : c.isDigit = true) : Digits (ds ++ [c]) := by
  refine ⟨by simp, fun d hd => ?_⟩
  rcases List.mem_append.mp hd with hd | hd
  · exact h d hd
  · rw [List.mem_singleton.mp hd]
    exact hc

theorem Digits.single (hc : c.isDigit = true) : Digits [c] :=
  ⟨by simp, by simpa using hc⟩

namespace NumberPart

/-- What has been read of a number when a part of it is reached. -/
def Seen : NumberPart → List Char → Prop
  | .minus, n => n = ['-']
  | .zero, n => ∃ sign, (sign = [] ∨ sign = ['-']) ∧ n = sign ++ ['0']
  | .whole, n => ∃ sign d ds, (sign = [] ∨ sign = ['-']) ∧ d.isDigit = true ∧ d ≠ '0' ∧
      (∀ c ∈ ds, c.isDigit = true) ∧ n = sign ++ d :: ds
  | .point, n => ∃ front, Front front ∧ n = front ++ ['.']
  | .fraction, n => ∃ front ds, Front front ∧ Digits ds ∧ n = front ++ '.' :: ds
  | .mark, n => ∃ mantissa mark, Mantissa mantissa ∧ (mark = 'e' ∨ mark = 'E') ∧
      n = mantissa ++ [mark]
  | .sign, n => ∃ mantissa mark sign, Mantissa mantissa ∧ (mark = 'e' ∨ mark = 'E') ∧
      (sign = '+' ∨ sign = '-') ∧ n = mantissa ++ [mark, sign]
  | .exponent, n => ∃ mantissa exponent, Mantissa mantissa ∧ Exponent exponent ∧
      exponent ≠ [] ∧ n = mantissa ++ exponent

/-! ### Nothing but numbers is read -/

/-- What may follow the digits before the point. -/
theorem seen_afterWhole (hfront : Front n) (hascii : IsAscii c)
    (hnext : afterWhole (byte c) = .more part') : part'.Seen (n ++ [c]) := by
  have hbyte : ∀ {d : Char}, IsAscii d → byte c = byte d → c = d := fun hd =>
    Text.byte_inj hascii hd
  unfold afterWhole at hnext
  split at hnext
  · rename_i hpoint
    cases hnext
    obtain rfl := hbyte (by decide) hpoint
    exact ⟨n, hfront, rfl⟩
  · split at hnext
    · rename_i hmark
      cases hnext
      rw [Bool.or_eq_true, decide_eq_true_eq, decide_eq_true_eq] at hmark
      exact ⟨n, c, hfront.mantissa, hmark.imp (hbyte (by decide)) (hbyte (by decide)), rfl⟩
    · cases hnext

/-- A digit where only a digit goes on. -/
theorem isDigit_of_byte (hascii : IsAscii c) (h : isDigit (byte c) = true) : c.isDigit = true := by
  rwa [isDigit_byte hascii] at h

/-- What a first character says about itself. -/
theorem seen_first (hascii : IsAscii c) (h : first? (byte c) = some part) : part.Seen [c] := by
  have hbyte : ∀ {d : Char}, IsAscii d → byte c = byte d → c = d := fun hd =>
    Text.byte_inj hascii hd
  unfold first? at h
  split at h
  · rename_i hminus
    cases h
    exact congrArg (fun c => [c]) (hbyte (by decide) hminus)
  · split at h
    · rename_i hzero
      cases h
      exact ⟨[], .inl rfl, congrArg (fun c => [c]) (hbyte (by decide) hzero)⟩
    · rename_i hzero
      split at h
      · rename_i hdigit
        cases h
        exact ⟨[], c, [], .inl rfl, isDigit_of_byte hascii hdigit,
          fun heq => hzero (congrArg byte heq), nofun, rfl⟩
      · cases h

/-- One more character of a number. -/
theorem seen_next (h : part.Seen n) (hascii : IsAscii c)
    (hnext : part.next (byte c) = .more part') : part'.Seen (n ++ [c]) := by
  have hbyte : ∀ {d : Char}, IsAscii d → byte c = byte d → c = d := fun hd =>
    Text.byte_inj hascii hd
  cases part with
  | minus =>
    obtain rfl : n = ['-'] := h
    simp only [next] at hnext
    split at hnext
    · rename_i hzero
      cases hnext
      obtain rfl := hbyte (by decide) hzero
      exact ⟨['-'], .inr rfl, rfl⟩
    · rename_i hzero
      split at hnext
      · rename_i hdigit
        cases hnext
        exact ⟨['-'], c, [], .inr rfl, isDigit_of_byte hascii hdigit,
          fun heq => hzero (congrArg byte heq), nofun, rfl⟩
      · cases hnext
  | zero =>
    obtain ⟨sign, hsign, rfl⟩ := h
    simp only [next] at hnext
    split at hnext
    · cases hnext
    · exact seen_afterWhole ⟨sign, ['0'], hsign, .zero, rfl⟩ hascii hnext
  | whole =>
    obtain ⟨sign, d, ds, hsign, hd, hzero, hds, rfl⟩ := h
    simp only [next] at hnext
    split at hnext
    · rename_i hdigit
      cases hnext
      exact ⟨sign, d, ds ++ [c], hsign, hd, hzero,
        (Digits.snoc hds (isDigit_of_byte hascii hdigit)).digits, by simp⟩
    · exact seen_afterWhole ⟨sign, d :: ds, hsign, .more d ds hd hzero hds, rfl⟩ hascii hnext
  | point =>
    obtain ⟨front, hfront, rfl⟩ := h
    simp only [next] at hnext
    split at hnext
    · rename_i hdigit
      cases hnext
      exact ⟨front, [c], hfront, Digits.single (isDigit_of_byte hascii hdigit), by simp⟩
    · cases hnext
  | fraction =>
    obtain ⟨front, ds, hfront, hds, rfl⟩ := h
    simp only [next] at hnext
    split at hnext
    · rename_i hdigit
      cases hnext
      exact ⟨front, ds ++ [c], hfront, Digits.snoc hds.digits (isDigit_of_byte hascii hdigit),
        by simp⟩
    · split at hnext
      · rename_i hmark
        cases hnext
        rw [Bool.or_eq_true, decide_eq_true_eq, decide_eq_true_eq] at hmark
        exact ⟨front ++ '.' :: ds, c, ⟨front, _, hfront, .some ds hds, rfl⟩,
          hmark.imp (hbyte (by decide)) (hbyte (by decide)), rfl⟩
      · cases hnext
  | mark =>
    obtain ⟨mantissa, mark, hmantissa, hmark, rfl⟩ := h
    simp only [next] at hnext
    split at hnext
    · rename_i hsign
      cases hnext
      rw [Bool.or_eq_true, decide_eq_true_eq, decide_eq_true_eq] at hsign
      exact ⟨mantissa, mark, c, hmantissa, hmark,
        hsign.imp (hbyte (by decide)) (hbyte (by decide)), by simp⟩
    · split at hnext
      · rename_i hdigit
        cases hnext
        have hds := Digits.single (isDigit_of_byte hascii hdigit)
        exact ⟨mantissa, _, hmantissa, .some mark [] [c] hmark (.inl rfl) hds, by simp, by simp⟩
      · cases hnext
  | sign =>
    obtain ⟨mantissa, mark, sign, hmantissa, hmark, hsign, rfl⟩ := h
    simp only [next] at hnext
    split at hnext
    · rename_i hdigit
      cases hnext
      have hds := Digits.single (isDigit_of_byte hascii hdigit)
      have hsign' : [sign] = ['+'] ∨ [sign] = ['-'] :=
        hsign.imp (congrArg fun c => [c]) (congrArg fun c => [c])
      exact ⟨mantissa, _, hmantissa, .some mark [sign] [c] hmark (.inr hsign') hds, by simp,
        by simp⟩
    · cases hnext
  | exponent =>
    -- Here at least one digit of the exponent has been read.
    obtain ⟨mantissa, exponent, hmantissa, hexponent, hsome, rfl⟩ := h
    simp only [next] at hnext
    split at hnext
    · rename_i hdigit
      cases hnext
      cases hexponent with
      | none => exact absurd rfl hsome
      | some mark sign ds hmark hsign hds =>
        have hmore := Digits.snoc hds.digits (isDigit_of_byte hascii hdigit)
        exact ⟨mantissa, _, hmantissa, .some mark sign (ds ++ [c]) hmark hsign hmore, by simp,
          by simp⟩
    · cases hnext

/-- What has been read of a number. -/
theorem seen_of_spells (h : Spells part n) : part.Seen n := by
  induction h with
  | first c part hascii h => exact seen_first hascii h
  | next _ c part' hascii h ih => exact seen_next ih hascii h

/-- Where a number may end, it is a number. -/
theorem number_of_seen (h : part.Seen n) (hcomplete : part.isComplete = true) : Number n := by
  have hplain : ∀ {n}, Mantissa n → Number n := fun hn => by
    simpa using hn.number .none
  cases part with
  | zero =>
    obtain ⟨sign, hsign, rfl⟩ := h
    exact hplain (Front.mantissa ⟨sign, ['0'], hsign, .zero, rfl⟩)
  | whole =>
    obtain ⟨sign, d, ds, hsign, hd, hzero, hds, rfl⟩ := h
    exact hplain (Front.mantissa ⟨sign, d :: ds, hsign, .more d ds hd hzero hds, rfl⟩)
  | fraction =>
    obtain ⟨front, ds, hfront, hds, rfl⟩ := h
    exact hplain ⟨front, '.' :: ds, hfront, .some ds hds, rfl⟩
  | exponent =>
    obtain ⟨mantissa, exponent, hmantissa, hexponent, _, rfl⟩ := h
    exact hmantissa.number hexponent
  | minus => cases hcomplete
  | point => cases hcomplete
  | mark => cases hcomplete
  | sign => cases hcomplete

/-- A number ends only where it may. -/
theorem isComplete_of_ends {b : UInt8} (h : part.next b = .ends) : part.isComplete = true := by
  cases part with
  | zero => rfl
  | whole => rfl
  | fraction => rfl
  | exponent => rfl
  | minus =>
    simp only [next] at h
    split at h
    · cases h
    · split at h <;> cases h
  | point =>
    simp only [next] at h
    split at h <;> cases h
  | mark =>
    simp only [next] at h
    split at h
    · cases h
    · split at h <;> cases h
  | sign =>
    simp only [next] at h
    split at h <;> cases h

/-! ### Numbers are read -/

/-- More digits are read where a part counts them. -/
theorem spells_digits (h : Spells part n)
    (hcounts : ∀ c, c.isDigit = true → part.next (byte c) = .more part) {ds : List Char}
    (hds : ∀ d ∈ ds, d.isDigit = true) : Spells part (n ++ ds) := by
  induction ds generalizing n with
  | nil => rwa [List.append_nil]
  | cons d rest ih =>
    obtain ⟨hd, hrest⟩ := List.forall_mem_cons.mp hds
    have hmore := ih (.next h d part (isAscii_of_isDigit hd) (hcounts d hd)) hrest
    rwa [List.append_assoc] at hmore

/-- A first digit and more of them are read where a digit leads to a part
that counts them. -/
theorem spells_some_digits (h : Spells part n)
    (hfirst : ∀ c, c.isDigit = true → part.next (byte c) = .more part')
    (hcounts : ∀ c, c.isDigit = true → part'.next (byte c) = .more part') {ds : List Char}
    (hds : Digits ds) : Spells part' (n ++ ds) := by
  obtain ⟨hsome, hdigits⟩ := hds
  cases ds with
  | nil => exact absurd rfl hsome
  | cons d rest =>
    obtain ⟨hd, hrest⟩ := List.forall_mem_cons.mp hdigits
    have hmore :=
      spells_digits (.next h d part' (isAscii_of_isDigit hd) (hfirst d hd)) hcounts hrest
    rwa [List.append_assoc] at hmore

/-- A digit is a digit as a byte. -/
theorem isDigit_byte_of (h : c.isDigit = true) : isDigit (byte c) = true := by
  rw [isDigit_byte (isAscii_of_isDigit h), h]

/-- A digit that is not zero is not zero as a byte. -/
theorem byte_ne_zero (h : c.isDigit = true) (hzero : c ≠ '0') : byte c ≠ byte '0' :=
  fun heq => hzero (Text.byte_inj (isAscii_of_isDigit h) (by decide) heq)

/-- The digits before the point are read. -/
theorem spells_front (h : Front n) : Spells .zero n ∨ Spells .whole n := by
  obtain ⟨sign, whole, hsign, hwhole, rfl⟩ := h
  have hcounts : ∀ c, c.isDigit = true → NumberPart.whole.next (byte c) = .more .whole := by
    intro c hc
    simp only [next, isDigit_byte_of hc, if_true]
  cases hwhole with
  | zero =>
    refine .inl ?_
    rcases hsign with rfl | rfl
    · exact .first '0' .zero (by decide) rfl
    · exact .next (.first '-' .minus (by decide) rfl) '0' .zero (by decide) rfl
  | more d ds hd hzero hds =>
    refine .inr ?_
    have hascii := isAscii_of_isDigit hd
    have hnonzero := byte_ne_zero hd hzero
    rcases hsign with rfl | rfl
    · have hminus : byte d ≠ byte '-' := by
        intro heq
        rw [Text.byte_inj hascii (by decide) heq] at hd
        cases hd
      have hfirst : first? (byte d) = some .whole := by
        simp only [first?, if_neg hminus, if_neg hnonzero, isDigit_byte_of hd, if_true]
      exact spells_digits (.first d .whole hascii hfirst) hcounts hds
    · have hnext : NumberPart.minus.next (byte d) = .more .whole := by
        simp only [next, if_neg hnonzero, isDigit_byte_of hd, if_true]
      exact spells_digits (.next (.first '-' .minus (by decide) rfl) d .whole hascii hnext)
        hcounts hds

/-- The point and the digits behind it are read. -/
theorem spells_mantissa (h : Mantissa n) :
    Spells .zero n ∨ Spells .whole n ∨ Spells .fraction n := by
  obtain ⟨front, fraction, hfront, hfraction, rfl⟩ := h
  cases hfraction with
  | none =>
    rw [List.append_nil]
    exact (spells_front hfront).imp_right .inl
  | some ds hds =>
    have hpoint : Spells .point (front ++ ['.']) := by
      rcases spells_front hfront with h | h
      · exact .next h '.' .point (by decide) rfl
      · exact .next h '.' .point (by decide) rfl
    have hdigit : ∀ c, c.isDigit = true →
        NumberPart.point.next (byte c) = .more .fraction ∧
          NumberPart.fraction.next (byte c) = .more .fraction := by
      intro c hc
      simp only [next, isDigit_byte_of hc, if_true, and_self]
    have hmore := spells_some_digits hpoint (fun c hc => (hdigit c hc).1)
      (fun c hc => (hdigit c hc).2) hds
    rw [List.append_assoc] at hmore
    exact .inr (.inr hmore)

/-- The exponent is read. -/
theorem spells_exponent (h : Mantissa n) {mark : Char} (hmark : mark = 'e' ∨ mark = 'E')
    {sign ds : List Char} (hsign : sign = [] ∨ sign = ['+'] ∨ sign = ['-']) (hds : Digits ds) :
    Spells .exponent (n ++ mark :: (sign ++ ds)) := by
  have hmarked : Spells .mark (n ++ [mark]) := by
    rcases hmark with rfl | rfl <;> rcases spells_mantissa h with h | h | h <;>
      exact .next h _ .mark (by decide) rfl
  have hdigit : ∀ c, c.isDigit = true →
      NumberPart.mark.next (byte c) = .more .exponent ∧
        NumberPart.sign.next (byte c) = .more .exponent ∧
          NumberPart.exponent.next (byte c) = .more .exponent := by
    intro c hc
    -- After the mark a sign is tried before a digit.
    have hnosign : (byte c = byte '+' || byte c = byte '-') = false := by
      have hne : ∀ {d : Char}, IsAscii d → d.isDigit = false → byte c ≠ byte d := by
        intro d hd hdigit heq
        rw [Text.byte_inj (isAscii_of_isDigit hc) hd heq, hdigit] at hc
        cases hc
      rw [Bool.or_eq_false_iff, decide_eq_false_iff_not, decide_eq_false_iff_not]
      exact ⟨hne (by decide) rfl, hne (by decide) rfl⟩
    simp only [next, hnosign, isDigit_byte_of hc, Bool.false_eq_true, if_false, if_true, and_self]
  have hcounts : ∀ c, c.isDigit = true → NumberPart.exponent.next (byte c) = .more .exponent :=
    fun c hc => (hdigit c hc).2.2
  rcases hsign with rfl | rfl | rfl
  · have hmore := spells_some_digits hmarked (fun c hc => (hdigit c hc).1) hcounts hds
    rwa [List.append_assoc] at hmore
  · have hmore := spells_some_digits (.next hmarked '+' .sign (by decide) rfl)
      (fun c hc => (hdigit c hc).2.1) hcounts hds
    simpa using hmore
  · have hmore := spells_some_digits (.next hmarked '-' .sign (by decide) rfl)
      (fun c hc => (hdigit c hc).2.1) hcounts hds
    simpa using hmore

/-- Where a number may end, exactly the numbers have been read. -/
theorem spells_complete_iff :
    (∃ part, Spells part n ∧ part.isComplete = true) ↔ Number n := by
  constructor
  · rintro ⟨part, hspells, hcomplete⟩
    exact number_of_seen (seen_of_spells hspells) hcomplete
  · rintro ⟨sign, whole, fraction, exponent, hsign, hwhole, hfraction, hexponent⟩
    have hmantissa : Mantissa (sign ++ whole ++ fraction) :=
      ⟨sign ++ whole, fraction, ⟨sign, whole, hsign, hwhole, rfl⟩, hfraction, rfl⟩
    cases hexponent with
    | none =>
      rw [List.append_nil]
      rcases spells_mantissa hmantissa with h | h | h
      · exact ⟨.zero, h, rfl⟩
      · exact ⟨.whole, h, rfl⟩
      · exact ⟨.fraction, h, rfl⟩
    | some mark signs ds hmark hsigns hds =>
      exact ⟨.exponent, spells_exponent hmantissa hmark hsigns hds, rfl⟩

end NumberPart

end Roster.Json
