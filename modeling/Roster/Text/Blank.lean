import Roster.Text.Ranges

/-!
# `Roster.Text.Blank`: white space

The Unicode property `White_Space`, the texts that hold nothing else,
and what is left of a text without the white space at both its ends.
The property is wider than ASCII white space and holds more than
spaces: it has the line and paragraph separators and the next-line
control, and it leaves out the zero-width characters.
-/

set_option autoImplicit false

namespace Roster.Text

/-- The ranges of the characters with the property `White_Space`. -/
def whiteSpaceRanges : List (Nat × Nat) :=
  [(0x9, 0xD), (0x20, 0x20), (0x85, 0x85), (0xA0, 0xA0), (0x1680, 0x1680),
   (0x2000, 0x200A), (0x2028, 0x2029), (0x202F, 0x202F), (0x205F, 0x205F),
   (0x3000, 0x3000)]

/-- Whether a character has the property `White_Space`. -/
def isWhiteSpace (c : Char) : Bool :=
  inRanges whiteSpaceRanges c.toNat

/-- Whether a text is blank: it is empty, or all of it is white
space. -/
def isBlank (s : String) : Bool :=
  s.toList.all isWhiteSpace

/-- A text without the white space around it. -/
def trimmed (cs : List Char) : List Char :=
  ((cs.dropWhile isWhiteSpace).reverse.dropWhile isWhiteSpace).reverse

/-- A text is blank exactly when none of its characters is anything but
white space. -/
theorem isBlank_eq_false_iff {s : String} :
    isBlank s = false ↔ ∃ c ∈ s.toList, isWhiteSpace c = false := by
  simp [isBlank]

end Roster.Text
