/-!
# `Roster.Text.Fold`: names compared without their case

A name made of ASCII characters is found in a text whatever the case of
the text's letters. Of the letters outside ASCII only the Kelvin sign
has an ASCII letter as its lower case, so it is the only one that can
stand in such a name.
-/

set_option autoImplicit false

namespace Roster.Text

/-- A character in lower case, as far as ASCII names can tell. -/
def foldChar (c : Char) : Char :=
  if c = '\u212A' then 'k' else c.toLower

/-- A text in lower case, as far as ASCII names can tell. -/
def fold (cs : List Char) : String :=
  String.ofList (cs.map foldChar)

end Roster.Text
