import Roster.Text.Hex

/-!
# `Roster.Text.Terminal`: texts shown on a terminal

A terminal takes some characters as commands. A text is shown so that it
cannot command anything: the controls that begin or end a command, that
ring, that delete or that go back are spelled out, and so are all
controls from U+0080 on. Tabs and line breaks stay as they are.
-/

set_option autoImplicit false

namespace Roster.Text.Terminal

/-- The ASCII controls that are spelled out, by two hexadecimal digits:
bell, backspace, form feed, escape and delete. -/
def spelledOut : List (Char × String) :=
  [('\x07', "\\x07"), ('\x08', "\\x08"), ('\x0c', "\\x0c"), ('\x1b', "\\x1b"),
   ('\x7f', "\\x7f")]

/-- A character as it is shown. -/
def escape (c : Char) : List Char :=
  match spelledOut.lookup c with
  | some s => s.toList
  | none =>
    if 0x80 ≤ c.toNat && c.toNat ≤ 0x9F then
      ['\\', 'u', '\x7b'] ++ hexDigits c.toNat ++ ['\x7d']
    else [c]

/-- A text as it is shown. -/
def text (s : String) : String :=
  String.ofList (s.toList.flatMap escape)

end Roster.Text.Terminal
