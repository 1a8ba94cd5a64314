import Roster.Json.Byte
import Roster.Json.Progress

/-!
# `Roster.Json.Word`: the values that are words

The three values that are spelled by a word. The first letter tells
which word it is, and the other letters must then follow.
-/

set_option autoImplicit false

namespace Roster.Json

/-- A value that is spelled by a word. -/
inductive Word where
  | null
  | yes
  | no
deriving DecidableEq, Repr

namespace Word

/-- The word that starts with a letter. -/
def ofFirst? (b : UInt8) : Option Word :=
  if b = byte 'n' then some .null
  else if b = byte 't' then some .yes
  else if b = byte 'f' then some .no
  else none

/-- The letters of a word after its first. -/
def rest : Word → List UInt8
  | .null => [byte 'u', byte 'l', byte 'l']
  | .yes => [byte 'r', byte 'u', byte 'e']
  | .no => [byte 'a', byte 'l', byte 's', byte 'e']

/-- The value that a word spells, as it is told in a message. -/
def found : Word → Found
  | .null => .null
  | .yes => .boolean true
  | .no => .boolean false

/-- One more letter of a word, `rest` being the letters that are still
to come. The last of them ends the word. -/
def step (rest : List UInt8) (b : UInt8) : Except Error (Progress (List UInt8) Unit) :=
  match rest with
  | [] => .error .malformed
  | [last] => if b = last then .ok (.done ()) else .error .malformed
  | next :: rest => if b = next then .ok (.more rest) else .error .malformed

end Word

end Roster.Json
