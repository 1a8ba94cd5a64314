import Roster.Json.Byte
import Roster.Json.Progress
import Roster.Text.Hex
import Roster.Text.Utf8

/-!
# `Roster.Json.TextToken`: a string whose text is wanted

Reads a string from the byte after its opening quote to its closing
quote. The bytes are gathered as they come, escapes being replaced by
the bytes of the character that they stand for, and are read as UTF-8
when the string closes: until then nothing tells a broken character
from one that is still to be completed.

A character above the sixteen-bit range is escaped as two surrogates. A
surrogate without its partner stands for no character and is refused.
-/

set_option autoImplicit false

namespace Roster.Json

/-- Where the next byte of a string falls. -/
inductive Escape where
  /-- Outside any escape. -/
  | plain
  /-- After a backslash. -/
  | begun
  /-- Among the four digits of a code unit. `lead` is the leading
  surrogate that waits for its partner, if there is one; `digits` has
  the last digit first. -/
  | hex (lead : Option Nat) (digits : List UInt8)
  /-- After a leading surrogate: a backslash must follow, -/
  | partnerSlash (lead : Nat)
  /-- and after that the letter that starts a code unit. -/
  | partnerMark (lead : Nat)
deriving DecidableEq, Repr

/-- A string of which some bytes have been read. The last byte comes
first. -/
structure TextToken where
  bytes : List UInt8
  escape : Escape
deriving DecidableEq, Repr

namespace TextToken

/-- A string of which only the opening quote has been read. -/
def start : TextToken :=
  ⟨[], .plain⟩

/-- The string with one more character. -/
def push (t : TextToken) (c : Char) : TextToken :=
  ⟨(String.utf8EncodeChar c).reverse ++ t.bytes, .plain⟩

/-- The character that a letter stands for after a backslash. -/
def shortEscape? (b : UInt8) : Option Char :=
  if b = byte '"' then some '"'
  else if b = byte '\\' then some '\\'
  else if b = byte '/' then some '/'
  else if b = byte 'b' then some '\x08'
  else if b = byte 'f' then some '\x0c'
  else if b = byte 'n' then some '\n'
  else if b = byte 'r' then some '\r'
  else if b = byte 't' then some '\t'
  else none

/-- The number that hexadecimal digits spell, the first digit first. -/
def hexNumber? (digits : List UInt8) : Option Nat :=
  digits.foldlM (fun n b => (Text.hexValue? b).map (16 * n + ·)) 0

/-- Whether a code unit is the first of two surrogates. -/
def isLead (n : Nat) : Bool :=
  0xD800 ≤ n && n ≤ 0xDBFF

/-- Whether a code unit is the second of two surrogates. -/
def isTrail (n : Nat) : Bool :=
  0xDC00 ≤ n && n ≤ 0xDFFF

/-- The character that two surrogates stand for. -/
def ofSurrogates (lead trail : Nat) : Char :=
  Char.ofNat (0x10000 + (lead - 0xD800) * 0x400 + (trail - 0xDC00))

/-- The string after a code unit has been read, `lead` being the
surrogate before it. -/
def unit (t : TextToken) (lead : Option Nat) (n : Nat) : Except Error TextToken :=
  match lead with
  | none =>
    if isTrail n then .error .malformed
    else if isLead n then .ok ⟨t.bytes, .partnerSlash n⟩
    else .ok (t.push (Char.ofNat n))
  | some lead =>
    if isTrail n then .ok (t.push (ofSurrogates lead n)) else .error .malformed

/-- The string after one more hexadecimal digit. The digits are judged
when all four are there. -/
def hexStep (t : TextToken) (lead : Option Nat) (digits : List UInt8) :
    Except Error TextToken :=
  if digits.length < 4 then .ok ⟨t.bytes, .hex lead digits⟩
  else
    match hexNumber? digits.reverse with
    | some n => t.unit lead n
    | none => .error .malformed

/-- One byte of a string. At the closing quote the text is handed
back. -/
def step (t : TextToken) (b : UInt8) : Except Error (Progress TextToken String) :=
  match t.escape with
  | .plain =>
    if b = byte '"' then
      match Text.ofUtf8? t.bytes.reverse with
      | some s => .ok (.done s)
      | none => .error .malformed
    else if b = byte '\\' then .ok (.more ⟨t.bytes, .begun⟩)
    else if b < 0x20 then .error .malformed
    else .ok (.more ⟨b :: t.bytes, .plain⟩)
  | .begun =>
    if b = byte 'u' then .ok (.more ⟨t.bytes, .hex none []⟩)
    else
      match shortEscape? b with
      | some c => .ok (.more (t.push c))
      | none => .error .malformed
  | .hex lead digits => (t.hexStep lead (b :: digits)).map .more
  | .partnerSlash lead =>
    if b = byte '\\' then .ok (.more ⟨t.bytes, .partnerMark lead⟩) else .error .malformed
  | .partnerMark lead =>
    if b = byte 'u' then .ok (.more ⟨t.bytes, .hex (some lead) []⟩) else .error .malformed

end TextToken

end Roster.Json
