import Roster.Json.Numeral
import Roster.Json.Word
import Roster.Text.Hex

/-!
# `Roster.Json.Skip`: a value that is passed over

Reads a value only to find its end. The value may nest to any depth;
the brackets that are open are kept on a stack. It must be well formed,
but nothing in it is given a meaning: a number may be of any size, and
a code unit in a string need not be a character or have its partner. A
string is not even read as UTF-8.
-/

set_option autoImplicit false

namespace Roster.Json

/-- A bracket that is open. -/
inductive Bracket where
  | list
  | object
deriving DecidableEq, Repr

/-- The byte that closes a bracket. -/
def Bracket.closing : Bracket → UInt8
  | .list => byte ']'
  | .object => byte '}'

/-- Where the next byte of a string falls that is passed over: outside
any escape, after a backslash, or among the digits of a code unit, the
last digit first. -/
inductive SkippedText where
  | plain
  | begun
  | hex (digits : List UInt8)
deriving DecidableEq, Repr

/-- Whether a byte may stand after a backslash for one character. -/
def isShortEscape (b : UInt8) : Bool :=
  [byte '"', byte '\\', byte '/', byte 'b', byte 'f', byte 'n', byte 'r', byte 't'].contains b

/-- One byte of a string that is passed over. -/
def SkippedText.step (t : SkippedText) (b : UInt8) :
    Except Error (Progress SkippedText Unit) :=
  match t with
  | .plain =>
    if b = byte '"' then .ok (.done ())
    else if b = byte '\\' then .ok (.more .begun)
    else if b < 0x20 then .error .malformed
    else .ok (.more .plain)
  | .begun =>
    if b = byte 'u' then .ok (.more (.hex []))
    else if isShortEscape b then .ok (.more .plain)
    else .error .malformed
  | .hex digits =>
    if digits.length < 3 then .ok (.more (.hex (b :: digits)))
    else if (b :: digits).all fun d => (Text.hexValue? d).isSome then .ok (.more .plain)
    else .error .malformed

/-- What the next byte is to a value that is passed over. -/
inductive SkipPart where
  /-- The first byte of a value, after blanks. -/
  | value
  /-- After an opening bracket: the bracket may close at once. -/
  | opened
  /-- After a comma in an object: a name must follow. -/
  | name
  | nameText (text : SkippedText)
  /-- After a name: the colon. -/
  | colon
  | word (rest : List UInt8)
  | number (part : NumberPart)
  | text (text : SkippedText)
  /-- After a value inside a bracket: a comma or the closing bracket. -/
  | ended
deriving DecidableEq, Repr

/-- A value that is passed over, of which some bytes have been read.
The innermost open bracket comes first. -/
structure Skip where
  brackets : List Bracket
  part : SkipPart
deriving DecidableEq, Repr

/-- What one byte does to a value that is passed over. -/
inductive SkipStep where
  | more (skip : Skip)
  /-- The byte is the value's last. -/
  | done
  /-- The value ended before the byte. -/
  | before
deriving DecidableEq, Repr

namespace Skip

/-- A value of which no byte has been read. -/
def start : Skip :=
  ⟨[], .value⟩

/-- What follows a value: the byte after it is either that of the
enclosing bracket or none of the skipped value's. -/
def afterValue (brackets : List Bracket) : SkipStep :=
  match brackets with
  | [] => .done
  | _ :: _ => .more ⟨brackets, .ended⟩

/-- The first byte of a value. -/
def startValue (brackets : List Bracket) (b : UInt8) : Except Error SkipStep :=
  match Word.ofFirst? b with
  | some word => .ok (.more ⟨brackets, .word word.rest⟩)
  | none =>
    match NumberPart.first? b with
    | some part => .ok (.more ⟨brackets, .number part⟩)
    | none =>
      if b = byte '"' then .ok (.more ⟨brackets, .text .plain⟩)
      else if b = byte '[' then .ok (.more ⟨.list :: brackets, .opened⟩)
      else if b = byte '{' then .ok (.more ⟨.object :: brackets, .opened⟩)
      else .error .malformed

/-- The first byte of a name. -/
def startName (brackets : List Bracket) (b : UInt8) : Except Error SkipStep :=
  if b = byte '"' then .ok (.more ⟨brackets, .nameText .plain⟩) else .error .malformed

/-- The first byte of what a bracket holds. -/
def startItem (bracket : Bracket) (outer : List Bracket) (b : UInt8) :
    Except Error SkipStep :=
  match bracket with
  | .list => startValue (bracket :: outer) b
  | .object => startName (bracket :: outer) b

/-- A byte after a value inside a bracket. -/
def afterItem (bracket : Bracket) (outer : List Bracket) (b : UInt8) :
    Except Error SkipStep :=
  if b = bracket.closing then .ok (afterValue outer)
  else if b = byte ',' then
    match bracket with
    | .list => .ok (.more ⟨bracket :: outer, .value⟩)
    | .object => .ok (.more ⟨bracket :: outer, .name⟩)
  else .error .malformed

/-- One byte of a value that is passed over. -/
def step (s : Skip) (b : UInt8) : Except Error SkipStep :=
  match s.part with
  | .value => if isBlank b then .ok (.more s) else startValue s.brackets b
  | .opened =>
    if isBlank b then .ok (.more s)
    else
      match s.brackets with
      | [] => .error .malformed
      | bracket :: outer =>
        if b = bracket.closing then .ok (afterValue outer)
        else startItem bracket outer b
  | .name => if isBlank b then .ok (.more s) else startName s.brackets b
  | .nameText text =>
    match text.step b with
    | .ok (.more text) => .ok (.more ⟨s.brackets, .nameText text⟩)
    | .ok (.done ()) => .ok (.more ⟨s.brackets, .colon⟩)
    | .error e => .error e
  | .colon =>
    if isBlank b then .ok (.more s)
    else if b = byte ':' then .ok (.more ⟨s.brackets, .value⟩)
    else .error .malformed
  | .word rest =>
    match Word.step rest b with
    | .ok (.more rest) => .ok (.more ⟨s.brackets, .word rest⟩)
    | .ok (.done ()) => .ok (afterValue s.brackets)
    | .error e => .error e
  | .number part =>
    match part.next b with
    | .more part => .ok (.more ⟨s.brackets, .number part⟩)
    | .malformed => .error .malformed
    | .ends =>
      match s.brackets with
      | [] => .ok .before
      | bracket :: outer =>
        if isBlank b then .ok (.more ⟨s.brackets, .ended⟩) else afterItem bracket outer b
  | .text text =>
    match text.step b with
    | .ok (.more text) => .ok (.more ⟨s.brackets, .text text⟩)
    | .ok (.done ()) => .ok (afterValue s.brackets)
    | .error e => .error e
  | .ended =>
    if isBlank b then .ok (.more s)
    else
      match s.brackets with
      | [] => .error .malformed
      | bracket :: outer => afterItem bracket outer b

/-- What is wrong with a text that ends inside a value that is passed
over. A number that lacks a digit is malformed; all else could go
on. -/
def atEnd (s : Skip) : Error :=
  match s.part with
  | .number part => if part.isComplete then .endOfInput else .malformed
  | _ => .endOfInput

end Skip

end Roster.Json
