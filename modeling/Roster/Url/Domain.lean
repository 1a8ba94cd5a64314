import Roster.Text.Extending
import Roster.Text.Percent
import Roster.Text.Split
import Roster.Text.Unprintable
import Roster.Url.Punycode

/-!
# `Roster.Url.Domain`: names of machines

A domain is a list of labels with points between them. It is compared
in a canonical form: letters of ASCII in lower case, wide forms of ASCII
as ASCII, the points of other scripts as points, and characters without
a mark left out. Characters that no domain may hold, or whose canonical
form has one of these, are refused.

A label of another script can be spelled in ASCII, after `xn--`. Then it
has to spell a label that is canonical, and not one that is in ASCII
anyway.

The tables follow Unicode 17. Rules that look at several characters at
once, such as those for the direction of scripts, are left to those who
give out domains.
-/

set_option autoImplicit false

namespace Roster.Url

/-- The characters that no host may hold. -/
def isForbidden (c : Char) : Bool :=
  ['\x00', '\t', '\n', '\r', ' ', '#', '/', ':', '<', '>', '?', '@', '[', '\\', ']', '^',
    '|'].contains c

namespace Domain

/-- The ASCII characters that no domain may hold. -/
def isForbiddenAscii (c : Char) : Bool :=
  isForbidden c || c.toNat ≤ 0x20 || c = '%' || c = '\x7f'

/-- The ranges of the code points that are left out. -/
def ignoredRanges : List (Nat × Nat) :=
  [(0xAD, 0xAD), (0x34F, 0x34F), (0x115F, 0x1160), (0x17B4, 0x17B5),
   (0x180B, 0x180F), (0x200B, 0x200B), (0x2060, 0x2064), (0x206A, 0x206F),
   (0x3164, 0x3164), (0xFE00, 0xFE0F), (0xFEFF, 0xFEFF), (0xFFA0, 0xFFA0),
   (0x1BCA0, 0x1BCA3), (0x1D173, 0x1D17A), (0xE0100, 0xE01EF)]

/-- The ranges of the printable characters that no domain may hold, or
whose canonical form has such a character. -/
def refusedRanges : List (Nat × Nat) :=
  [(0xA8, 0xA8), (0xAF, 0xAF), (0xB4, 0xB4), (0xB8, 0xB8), (0x2D8, 0x2DD),
   (0x37A, 0x37A), (0x384, 0x385), (0x1FBD, 0x1FBD), (0x1FBF, 0x1FC1),
   (0x1FCD, 0x1FCF), (0x1FDD, 0x1FDF), (0x1FED, 0x1FEE), (0x1FFD, 0x1FFE),
   (0x2017, 0x2017), (0x2024, 0x2026), (0x203E, 0x203E), (0x2047, 0x2049),
   (0x2100, 0x2101), (0x2105, 0x2106), (0x2488, 0x249B), (0x2A74, 0x2A74),
   (0x2FF0, 0x2FFF), (0x309B, 0x309C), (0x31EF, 0x31EF), (0x33C2, 0x33C2),
   (0x33C7, 0x33C7), (0x33D8, 0x33D8), (0xFC5E, 0xFC63), (0xFDFA, 0xFDFB),
   (0xFE12, 0xFE13), (0xFE16, 0xFE16), (0xFE19, 0xFE19), (0xFE30, 0xFE30),
   (0xFE47, 0xFE4C), (0xFE52, 0xFE52), (0xFE55, 0xFE56), (0xFE5F, 0xFE5F),
   (0xFE64, 0xFE65), (0xFE68, 0xFE68), (0xFE6A, 0xFE6B), (0xFE70, 0xFE70),
   (0xFE72, 0xFE72), (0xFE74, 0xFE74), (0xFE76, 0xFE76), (0xFE78, 0xFE78),
   (0xFE7A, 0xFE7A), (0xFE7C, 0xFE7C), (0xFE7E, 0xFE7E), (0xFFE3, 0xFFE3),
   (0xFFFC, 0xFFFD), (0x1F100, 0x1F100)]

/-- The points of other scripts. -/
def points : List Char :=
  ['\u3002', '\uff0e', '\uff61']

/-- Whether a character beyond ASCII is one that no domain may hold. -/
def isRefused (c : Char) : Bool :=
  Text.isUnprintable c || Text.inRanges refusedRanges c.toNat

/-- The canonical form of a character, as far as ASCII is concerned. -/
def canonical? (c : Char) : Option (List Char) :=
  if c.toNat < 0x80 then some [c.toLower]
  else if points.contains c then some ['.']
  else if 0xFF01 ≤ c.toNat && c.toNat ≤ 0xFF5E then some [(Char.ofNat (c.toNat - 0xFEE0)).toLower]
  else if Text.inRanges ignoredRanges c.toNat then some []
  else if isRefused c then none
  else some [c]

/-- Whether a label that was spelled in ASCII is canonical, and not in
ASCII. -/
def isSpelledLabel (cs : List Char) : Bool :=
  cs.any (0x80 ≤ ·.toNat) && cs.all fun c => canonical? c = some [c]

/-- Whether a label is well formed. It does not start with a mark that
is drawn onto its neighbour. -/
def isLabel (cs : List Char) : Bool :=
  let starts (cs : List Char) : Bool := !cs.head?.any Text.isExtending
  if "xn--".toList.isPrefixOf cs then
    (Punycode.decode? (cs.drop 4)).any fun label => isSpelledLabel label && starts label
  else starts cs

/-- The canonical form of a domain, if a percent-encoded text is one. -/
def ofText? (cs : List Char) : Option (List Char) :=
  ((Text.Percent.decode? (String.ofList cs)).bind fun text => text.toList.mapM canonical?).bind
    fun parts =>
      let domain := parts.flatten
      if !domain.isEmpty && !domain.any isForbiddenAscii && (Text.splitAll '.' domain).all isLabel
      then some domain
      else none

end Domain

end Roster.Url
