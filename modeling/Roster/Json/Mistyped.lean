import Roster.Json.Numeral
import Roster.Json.TextToken
import Roster.Json.Word

/-!
# `Roster.Json.Mistyped`: a value of the wrong type

A value of the wrong type is read far enough to say what it is: a
scalar to its end, an array or an object by its bracket alone. So its
reader never hands back a result, and it fails in one of three ways:
the text stops too early, the value is malformed, or it is of the wrong
type.
-/

set_option autoImplicit false

namespace Roster.Json

/-- What has been read of a value of the wrong type. -/
inductive WrongValue where
  /-- A word, of which the letters `rest` are still to come. -/
  | word (word : Word) (rest : List UInt8)
  | number (numeral : Numeral)
  | text (token : TextToken)

/-- A value of the wrong type, with what was expected in its place. -/
structure Mistyped where
  expected : Expected
  value : WrongValue

namespace Mistyped

/-- The failure that tells a value. -/
def tell (expected : Expected) (found : Found) : Error :=
  .invalid (.mistyped found expected)

/-- The failure that tells a number. A number out of range is
malformed. -/
def tellNumber (expected : Expected) (n : Numeral) : Error :=
  match n.found? with
  | some found => tell expected found
  | none => .malformed

/-- The first byte of a value that is not of the expected type. -/
def start (expected : Expected) (b : UInt8) : Except Error Mistyped :=
  match Word.ofFirst? b with
  | some word => .ok ⟨expected, .word word word.rest⟩
  | none =>
    match NumberPart.first? b with
    | some part => .ok ⟨expected, .number (Numeral.start part b)⟩
    | none =>
      if b = byte '"' then .ok ⟨expected, .text TextToken.start⟩
      else if b = byte '[' then .error (tell expected .list)
      else if b = byte '{' then .error (tell expected .object)
      else .error .malformed

/-- One byte of a value of the wrong type. -/
def step (m : Mistyped) (b : UInt8) : Except Error Mistyped :=
  match m.value with
  | .word word rest =>
    match Word.step rest b with
    | .ok (.more rest) => .ok ⟨m.expected, .word word rest⟩
    | .ok (.done ()) => .error (tell m.expected word.found)
    | .error e => .error e
  | .number n =>
    match n.part.next b with
    | .more part => .ok ⟨m.expected, .number (n.push part b)⟩
    | .ends => .error (tellNumber m.expected n)
    | .malformed => .error .malformed
  | .text token =>
    match token.step b with
    | .ok (.more token) => .ok ⟨m.expected, .text token⟩
    | .ok (.done s) => .error (tell m.expected (.text s))
    | .error e => .error e

/-- What is wrong with a text that ends inside a value of the wrong
type. Only a number can be complete without a byte after it. -/
def atEnd (m : Mistyped) : Error :=
  match m.value with
  | .number n => if n.part.isComplete then tellNumber m.expected n else .endOfInput
  | .word .. | .text _ => .endOfInput

end Mistyped

end Roster.Json
