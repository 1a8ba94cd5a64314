import Roster.Text.Hex
import Roster.Text.Readable

/-!
# `Roster.Text.Percent`: percent-encoded texts

In a URL a byte may be spelled by a percent sign and two hexadecimal
digits. A percent sign with no two digits after it stands for itself.
-/

set_option autoImplicit false

namespace Roster.Text.Percent

/-- The bytes that percent-encoded bytes stand for. -/
def decodeBytes : List UInt8 → List UInt8
  | 0x25 :: a :: b :: rest =>
    match hexValue? a, hexValue? b with
    | some x, some y => (16 * x + y).toUInt8 :: decodeBytes rest
    | _, _ => 0x25 :: decodeBytes (a :: b :: rest)
  | b :: rest => b :: decodeBytes rest
  | [] => []

/-- The text that a percent-encoded text stands for, if its bytes are
one. -/
def decode? (s : String) : Option String :=
  ofUtf8? (decodeBytes (utf8 s))

/-- The text that a percent-encoded text stands for, with marks in
place of what cannot be read. -/
def decode (s : String) : String :=
  String.ofList (readable (decodeBytes (utf8 s)))

/-- Whether each percent sign has two hexadecimal digits after it. -/
def isStrict : List UInt8 → Bool
  | 0x25 :: a :: b :: rest =>
    (hexValue? a).isSome && (hexValue? b).isSome && isStrict rest
  | b :: rest => b ≠ 0x25 && isStrict rest
  | [] => true

end Roster.Text.Percent
