import Roster.Text.Utf8

/-!
# `Roster.Text.Readable`: what can be read of some bytes

Bytes that are no text can hold texts all the same. What can be read is
kept, and each run of bytes that begins a character without ending it,
or that begins none, is replaced by a mark, U+FFFD.
-/

set_option autoImplicit false

namespace Roster.Text

/-- How many bytes must follow the first byte of a character, and from
where to where the next of them ranges. -/
def followers (first : UInt8) : Nat × UInt8 × UInt8 :=
  if first < 0xC2 || 0xF4 < first then (0, 0x80, 0xBF)
  else if first < 0xE0 then (1, 0x80, 0xBF)
  else if first = 0xE0 then (2, 0xA0, 0xBF)
  else if first = 0xED then (2, 0x80, 0x9F)
  else if first < 0xF0 then (2, 0x80, 0xBF)
  else if first = 0xF0 then (3, 0x90, 0xBF)
  else if first = 0xF4 then (3, 0x80, 0x8F)
  else (3, 0x80, 0xBF)

/-- How many of the next bytes go on with a character that lacks
`missing` bytes, the next of them between two bounds. -/
def going (missing : Nat) (least greatest : UInt8) : List UInt8 → Nat
  | [] => 0
  | b :: rest =>
    match missing with
    | 0 => 0
    | missing + 1 =>
      if least ≤ b && b ≤ greatest then going missing 0x80 0xBF rest + 1 else 0

/-- The characters that can be read, with marks in place of the rest. -/
def readable : List UInt8 → List Char
  | [] => []
  | first :: rest =>
    let (missing, least, greatest) := followers first
    let count := going missing least greatest rest
    ((ofUtf8? (first :: rest.take count)).map String.toList).getD ['\uFFFD']
      ++ readable (rest.drop count)
termination_by bytes => bytes.length
decreasing_by simp only [List.length_drop, List.length_cons]; omega

end Roster.Text
