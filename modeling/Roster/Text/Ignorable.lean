import Roster.Text.Ranges

/-!
# `Roster.Text.Ignorable`: characters that a display leaves out

The Unicode property `Default_Ignorable_Code_Point` as of Unicode 17:
joiners, variation selectors, fillers and the like, which a display
that does not know them leaves out. Most of them are controls or marks;
the four fillers of the Korean script count as letters.
-/

set_option autoImplicit false

namespace Roster.Text

/-- The ranges of the code points that a display leaves out. -/
def ignorableRanges : List (Nat × Nat) :=
  [(0xAD, 0xAD), (0x34F, 0x34F), (0x61C, 0x61C), (0x115F, 0x1160),
   (0x17B4, 0x17B5), (0x180B, 0x180F), (0x200B, 0x200F), (0x202A, 0x202E),
   (0x2060, 0x206F), (0x3164, 0x3164), (0xFE00, 0xFE0F), (0xFEFF, 0xFEFF),
   (0xFFA0, 0xFFA0), (0xFFF0, 0xFFF8), (0x1BCA0, 0x1BCA3), (0x1D173, 0x1D17A),
   (0xE0000, 0xE0FFF)]

/-- Whether a display may leave a character out. -/
def isIgnorable (c : Char) : Bool :=
  inRanges ignorableRanges c.toNat

end Roster.Text
