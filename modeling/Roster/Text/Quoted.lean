import Roster.Text.Extending
import Roster.Text.Hex
import Roster.Text.Ignorable
import Roster.Text.Unprintable

/-!
# `Roster.Text.Quoted`: a text shown in quotes

A text is shown between double quotes, on one line, so that a reader
can tell exactly which characters it holds. The quote, the backslash
and the controls NUL, tab, line feed and carriage return have short
escapes; any other character that is not printable, that a display may
leave out, or that would be drawn onto its neighbour, is given by its
code point in lower-case hexadecimal digits. All else stands for
itself.
-/

set_option autoImplicit false

namespace Roster.Text.Quoted

/-- The escape that names a character by its code point. -/
def byCodePoint (c : Char) : List Char :=
  ['\\', 'u', '{'] ++ hexDigits c.toNat ++ ['}']

/-- Whether a character is shown by its code point. -/
def isHidden (c : Char) : Bool :=
  isExtending c || isIgnorable c || isUnprintable c

/-- A character as it is shown between quotes. -/
def escape (c : Char) : List Char :=
  if c = '\x00' then ['\\', '0']
  else if c = '\t' then ['\\', 't']
  else if c = '\n' then ['\\', 'n']
  else if c = '\r' then ['\\', 'r']
  else if c = '"' then ['\\', '"']
  else if c = '\\' then ['\\', '\\']
  else if isHidden c then byCodePoint c
  else [c]

/-- A text between quotes, as characters. -/
def chars (s : String) : List Char :=
  '"' :: s.toList.flatMap escape ++ ['"']

/-- A text between quotes. -/
def text (s : String) : String :=
  String.ofList (chars s)

end Roster.Text.Quoted
