import Roster.Json.Skip
import Roster.Proofs.Json.TextToken

/-!
# `Roster.Proofs.Json.SkippedText`: strings are passed over by their grammar

A string that is passed over closes exactly after a body
(`SkippedText.closes_iff`). Nothing is gathered, so surrogates need no
partner here, and `SkippedText.Seen` has only the start of an escape to
tell beside the body.
-/

set_option autoImplicit false

namespace Roster.Json

open Text (encode IsAscii IsWide)

variable {b : UInt8} {c : Char} {ds body read : List Char} {n : Nat}

/-- Four bytes that are digits are a code unit. -/
theorem codeUnit_of_digits (hlength : (encode ds).length = 4)
    (hdigits : ∀ b ∈ encode ds, (Text.hexValue? b).isSome = true) : ∃ n, CodeUnit ds n := by
  have hnarrow : ∀ b ∈ encode ds, ¬ IsWide b := by
    intro b hb hwide
    have hsome := hdigits b hb
    rw [(unclassed_of_wide hwide).hex] at hsome
    cases hsome
  obtain ⟨hascii, hbytes⟩ := Text.ascii_of_encode hnarrow
  rw [hbytes] at hlength hdigits
  refine ⟨_, by simpa using hlength, fun d hd => ?_, rfl⟩
  have hsome := hdigits (byte d) (List.mem_map_of_mem hd)
  rw [hexValue?_byte (hascii d hd)] at hsome
  split at hsome
  · assumption
  · cases hsome

namespace SkippedText

variable {t t' : SkippedText}

/-! ### Bodies are passed over -/

/-- A byte that stands for itself is passed over. -/
theorem step_plain (h : PlainByte b) : step .plain b = .ok (.more .plain) := by
  simp only [step, if_neg h.quote, if_neg h.backslash, if_neg h.control]

/-- Bytes that stand for themselves are passed over. -/
theorem goes_plain {read : List UInt8} (h : ∀ b ∈ read, PlainByte b) :
    Goes step .more .plain read .plain := by
  induction read with
  | nil => exact .nil _
  | cons b rest ih =>
    obtain ⟨hb, hrest⟩ := List.forall_mem_cons.mp h
    exact .cons (step_plain hb) (ih hrest)

/-- The four digits of a code unit are passed over. -/
theorem goes_of_codeUnit (h : CodeUnit ds n) : Goes step .more (.hex []) (encode ds) .plain := by
  have hvalue : ∀ d ∈ ds, (Text.hexValue? (byte d)).isSome = true := by
    intro d hd
    have hdigit := h.digits d hd
    rw [hexValue?_byte (isAscii_of_isHexDigit hdigit), if_pos hdigit]
    rfl
  rw [h.encode_eq]
  obtain ⟨hlength, _, _⟩ := h
  match ds, hlength with
  | [d₁, d₂, d₃, d₄], _ =>
    refine .cons rfl (.cons rfl (.cons rfl (.single ?_)))
    simp only [step, List.all_cons, hvalue d₁ (by simp), hvalue d₂ (by simp),
      hvalue d₃ (by simp), hvalue d₄ (by simp)]
    rfl

/-- A body is passed over. -/
theorem goes_of_body (h : Body body) : Goes step .more .plain (encode body) .plain := by
  induction h with
  | nil => exact .nil _
  | @plain body c hc _ ih =>
    rw [show c :: body = [c] ++ body from rfl, Text.encode_append]
    exact (goes_plain hc.plainByte).append ih
  | @short body letter c hc _ ih =>
    have hletter := isAscii_of_shortEscape hc
    have hshort := (shortEscape?_byte hletter).mpr hc
    have hmark : byte letter ≠ byte 'u' := by
      intro heq
      rw [heq] at hshort
      cases hshort
    rw [Text.encode_cons_ascii (by decide), Text.encode_cons_ascii hletter]
    refine .cons rfl (.cons ?_ ih)
    simp only [step, if_neg hmark, isShortEscape_byte hletter, hshort]
    rfl
  | @unit body ds n hunit _ ih =>
    rw [Text.encode_cons_ascii (by decide), Text.encode_cons_ascii (by decide),
      Text.encode_append]
    exact .cons rfl (.cons rfl ((goes_of_codeUnit hunit).append ih))

/-! ### Nothing else is passed over -/

/-- What has been read of a string that is passed over. -/
def Seen : SkippedText → List Char → Prop
  | .plain, read => Body read
  | .begun, read => ∃ body, read = body ++ ['\\'] ∧ Body body
  | .hex digits, read => ∃ body ds, read = body ++ '\\' :: 'u' :: ds ∧ Body body ∧
      digits.length < 4 ∧ digits.reverse = encode ds

/-- One more ASCII character of a string that is passed over. -/
theorem seen_step (h : t.Seen read) (hascii : IsAscii c)
    (hstep : t.step (byte c) = .ok (.more t')) : t'.Seen (read ++ [c]) := by
  have hbyte : ∀ {d : Char}, IsAscii d → byte c = byte d → c = d := fun hd =>
    Text.byte_inj hascii hd
  cases t with
  | plain =>
    simp only [step] at hstep
    split at hstep
    · cases hstep
    · rename_i hquote
      split at hstep
      · rename_i hslash
        cases hstep
        exact ⟨read, congrArg (fun c => read ++ [c]) (hbyte (by decide) hslash), h⟩
      · rename_i hslash
        split at hstep
        · cases hstep
        · rename_i hcontrol
          cases hstep
          exact h.append (.plain c (isPlain_of_plainByte hascii ⟨hquote, hslash, hcontrol⟩) .nil)
  | begun =>
    obtain ⟨body, rfl, hbody⟩ := h
    simp only [step] at hstep
    split at hstep
    · rename_i hmark
      cases hstep
      obtain rfl := hbyte (by decide) hmark
      exact ⟨body, [], by simp, hbody, by decide, rfl⟩
    · split at hstep
      · rename_i hshort
        cases hstep
        rw [isShortEscape_byte hascii] at hshort
        obtain ⟨d, hd⟩ := Option.isSome_iff_exists.mp hshort
        rw [List.append_assoc]
        exact hbody.append (.short c d ((shortEscape?_byte hascii).mp hd) .nil)
      · cases hstep
  | hex digits =>
    obtain ⟨body, ds, rfl, hbody, hlength, hdigits⟩ := h
    have hread : (byte c :: digits).reverse = encode (ds ++ [c]) := by
      rw [List.reverse_cons, hdigits, Text.encode_append, Text.encode_singleton,
        Text.encodeChar_ascii hascii]
    simp only [step] at hstep
    split at hstep
    · rename_i hfew
      cases hstep
      exact ⟨body, ds ++ [c], by simp, hbody, Nat.succ_lt_succ hfew, hread⟩
    · rename_i hfull
      split at hstep
      · -- The digits are looked at only now that all four are there.
        rename_i hall
        cases hstep
        have hfour : (encode (ds ++ [c])).length = 4 := by
          rw [← hread, List.length_reverse, List.length_cons]
          omega
        have hvalues : ∀ b ∈ encode (ds ++ [c]), (Text.hexValue? b).isSome = true := by
          intro b hb
          rw [← hread] at hb
          exact List.all_eq_true.mp hall b (List.mem_reverse.mp hb)
        obtain ⟨n, hn⟩ := codeUnit_of_digits hfour hvalues
        have hbody' := hbody.append (.unit (ds ++ [c]) n hn .nil)
        show Body _
        simpa using hbody'
      · cases hstep

/-- A wide byte where it is read: it stands for itself, or it is taken for
one of the first three digits of a code unit. -/
theorem step_wide (h : IsWide b) {result : Progress SkippedText Unit}
    (hstep : t.step b = .ok result) :
    (t = .plain ∧ result = .more .plain) ∨
    ∃ digits, t = .hex digits ∧ (b :: digits).length < 4 ∧ result = .more (.hex (b :: digits)) := by
  have hclass := unclassed_of_wide h
  cases t with
  | plain =>
    rw [step_plain (plainByte_of_wide h)] at hstep
    cases hstep
    exact .inl ⟨rfl, rfl⟩
  | begun =>
    simp only [step, if_neg (hclass.ascii 'u' (by decide)), hclass.passedEscape] at hstep
    cases hstep
  | hex digits =>
    simp only [step] at hstep
    split at hstep
    · rename_i hfew
      cases hstep
      exact .inr ⟨digits, rfl, Nat.succ_lt_succ hfew, rfl⟩
    · rw [List.all_cons, hclass.hex] at hstep
      cases hstep

/-- Wide bytes stand for themselves, or are taken for digits. -/
theorem goes_wide {read : List UInt8} (hwide : ∀ b ∈ read, IsWide b)
    (h : Goes step .more t read t') :
    read = [] ∨ (t = .plain ∧ t' = .plain) ∨
    ∃ digits, t = .hex digits ∧ (read.reverse ++ digits).length < 4 ∧
      t' = .hex (read.reverse ++ digits) := by
  induction h with
  | nil => exact .inl rfl
  | @cons s middle s' b rest hstep hrest ih =>
    obtain ⟨hb, hwide⟩ := List.forall_mem_cons.mp hwide
    -- No byte leads from one of the two kinds of state to the other.
    rcases step_wide hb hstep with ⟨hplain, heq⟩ | ⟨digits, hhex, hfew, heq⟩
    · cases heq
      rcases ih hwide with rfl | ⟨_, rfl⟩ | ⟨_, hhex, _⟩
      · cases hrest
        exact .inr (.inl ⟨hplain, rfl⟩)
      · exact .inr (.inl ⟨hplain, rfl⟩)
      · cases hhex
    · cases heq
      rcases ih hwide with rfl | ⟨hplain, _⟩ | ⟨_, heq, hmore, rfl⟩
      · cases hrest
        exact .inr (.inr ⟨digits, hhex, hfew, rfl⟩)
      · cases hplain
      · cases heq
        exact .inr (.inr ⟨digits, hhex, by simpa using hmore, by simp⟩)

/-- One more character of a string that is passed over, when it is not
ASCII. -/
theorem seen_wide (h : t.Seen read) (hwide : ∀ b ∈ encode [c], IsWide b)
    (hsome : encode [c] ≠ []) (hgoes : Goes step .more t (encode [c]) t') :
    t'.Seen (read ++ [c]) := by
  rcases goes_wide hwide hgoes with hnil | ⟨rfl, rfl⟩ | ⟨digits, rfl, hfew, rfl⟩
  · exact absurd hnil hsome
  · exact Body.append h (.plain c (isPlain_of_wide hwide) .nil)
  · obtain ⟨body, ds, rfl, hbody, _, hdigits⟩ := h
    exact ⟨body, ds ++ [c], by simp, hbody, hfew, by simp [hdigits]⟩

/-- What has been read of a string that is passed over. -/
theorem seen_of_goes (h : Goes step .more .plain (encode read) t) : t.Seen read := by
  have hstart : Seen .plain [] := Body.nil
  refine Goes.invariant Seen hstart ?_ ?_ h
  · exact fun _ _ _ _ hascii hseen hstep => seen_step hseen hascii hstep
  · exact fun _ _ _ _ hwide hsome hseen hgoes => seen_wide hseen hwide hsome hgoes

/-- A string that is passed over closes exactly after a body. -/
theorem closes_iff (hascii : IsAscii c) :
    (∃ t, Goes step .more .plain (encode body) t ∧ t.step (byte c) = .ok (.done ())) ↔
      c = '"' ∧ Body body := by
  constructor
  · rintro ⟨t, hgoes, hstep⟩
    have hseen := seen_of_goes hgoes
    cases t with
    | plain =>
      simp only [step] at hstep
      split at hstep
      · rename_i hquote
        exact ⟨Text.byte_inj hascii (by decide) hquote, hseen⟩
      · split at hstep
        · cases hstep
        · split at hstep <;> cases hstep
    | begun =>
      simp only [step] at hstep
      split at hstep
      · cases hstep
      · split at hstep <;> cases hstep
    | hex digits =>
      simp only [step] at hstep
      split at hstep
      · cases hstep
      · split at hstep <;> cases hstep
  · rintro ⟨rfl, h⟩
    exact ⟨.plain, goes_of_body h, rfl⟩

end SkippedText

end Roster.Json
