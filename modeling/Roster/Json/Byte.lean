/-!
# `Roster.Json.Byte`: the bytes that the grammar knows

Every character with a meaning in the grammar is ASCII, hence one byte.
-/

set_option autoImplicit false

namespace Roster.Json

/-- The byte of an ASCII character. -/
abbrev byte (c : Char) : UInt8 :=
  c.toNat.toUInt8

/-- Whether a byte may stand between tokens: space, tab, line feed and
carriage return. -/
def isBlank (b : UInt8) : Bool :=
  b = 0x20 || b = 0x09 || b = 0x0A || b = 0x0D

/-- Whether a byte is a decimal digit. -/
def isDigit (b : UInt8) : Bool :=
  0x30 ≤ b && b ≤ 0x39

/-- The value of a decimal digit. -/
def digitValue (b : UInt8) : Nat :=
  b.toNat - 0x30

end Roster.Json
