import Roster.Employee.Draft
import Roster.Json.Mistyped
import Roster.Json.Skip

/-!
# `Roster.Json.RecordReader`: reading one record

A record is an object with both fields, or an array of the two names in
their order. In an object the members come in any order; a member with
another name is passed over, and a field must not come twice. The
reader judges each byte as it comes, so of two faults in a text the one
further left is reported, and what is missing is reported when the
object closes.
-/

set_option autoImplicit false

namespace Roster.Json

open Employee (Field Draft)

/-- What the next byte is to a record. -/
inductive RecordPart where
  /-- The first byte of the record, after blanks. -/
  | opening
  /-- After the opening brace: a name, or the closing brace. -/
  | opened
  /-- After a comma: a name. -/
  | nextName (draft : Draft)
  | name (draft : Draft) (token : TextToken)
  /-- After a name: the colon. A name that is no field's is not
  kept. -/
  | colon (draft : Draft) (field : Option Field)
  /-- The first byte of a field's value, after blanks. -/
  | value (draft : Draft) (field : Field)
  | text (draft : Draft) (field : Field) (token : TextToken)
  /-- The value of a member that is passed over. -/
  | skipped (draft : Draft) (skip : Skip)
  /-- After a member: a comma or the closing brace. -/
  | ended (draft : Draft)
  /-- After the opening bracket of the array form. -/
  | firstSlot
  | firstText (token : TextToken)
  /-- After the first name: a comma. -/
  | afterFirst (first : String)
  /-- After that comma: the second name. -/
  | secondSlot (first : String)
  | secondText (first : String) (token : TextToken)
  /-- After the second name: the closing bracket. -/
  | afterSecond (first last : String)
  /-- A value of the wrong type. -/
  | mistyped (value : Mistyped)

namespace RecordPart

/-- A reader's answer to a byte: it reads on, it hands back a record,
or it fails. -/
abbrev Answer := Except Error (Progress RecordPart Employee)

/-- The reader reads on. -/
def goOn (part : RecordPart) : Answer :=
  .ok (.more part)

/-- The first byte of a value that is not of the expected type. -/
def wrong (expected : Expected) (b : UInt8) : Answer :=
  (Mistyped.start expected b).map fun m => .more (.mistyped m)

/-- The first byte of a record. -/
def openRecord (b : UInt8) : Answer :=
  if b = byte '{' then goOn .opened
  else if b = byte '[' then goOn .firstSlot
  else wrong .record b

/-- The first byte of a name. -/
def openName (draft : Draft) (b : UInt8) : Answer :=
  if b = byte '"' then goOn (.name draft TextToken.start) else .error .malformed

/-- A name that has been read. A field that was read before is refused
here, whatever value it would be given. -/
def closeName (draft : Draft) (read : String) : Answer :=
  match Field.ofName? read with
  | none => goOn (.colon draft none)
  | some field =>
    if (draft.get? field).isSome then .error (.invalid (.duplicate field))
    else goOn (.colon draft (some field))

/-- The closing brace. What has not been read by now is missing. -/
def close (draft : Draft) : Answer :=
  match draft.complete with
  | .ok record => .ok (.done record)
  | .error field => .error (.invalid (.missing field))

/-- A byte after a member. -/
def afterMember (draft : Draft) (b : UInt8) : Answer :=
  if isBlank b then goOn (.ended draft)
  else if b = byte ',' then goOn (.nextName draft)
  else if b = byte '}' then close draft
  else .error .malformed

/-- One byte of a record. -/
def step (part : RecordPart) (b : UInt8) : Answer :=
  match part with
  | .opening => if isBlank b then goOn part else openRecord b
  | .opened =>
    if isBlank b then goOn part
    else if b = byte '}' then close Draft.empty
    else openName Draft.empty b
  | .nextName draft => if isBlank b then goOn part else openName draft b
  | .name draft token =>
    match token.step b with
    | .ok (.more token) => goOn (.name draft token)
    | .ok (.done read) => closeName draft read
    | .error e => .error e
  | .colon draft field =>
    if isBlank b then goOn part
    else if b = byte ':' then
      match field with
      | none => goOn (.skipped draft Skip.start)
      | some field => goOn (.value draft field)
    else .error .malformed
  | .value draft field =>
    if isBlank b then goOn part
    else if b = byte '"' then goOn (.text draft field TextToken.start)
    else wrong .text b
  | .text draft field token =>
    match token.step b with
    | .ok (.more token) => goOn (.text draft field token)
    | .ok (.done read) => goOn (.ended (draft.set field read))
    | .error e => .error e
  | .skipped draft skip =>
    match skip.step b with
    | .ok (.more skip) => goOn (.skipped draft skip)
    | .ok .done => goOn (.ended draft)
    | .ok .before => afterMember draft b
    | .error e => .error e
  | .ended draft => afterMember draft b
  | .firstSlot =>
    if isBlank b then goOn part
    else if b = byte '"' then goOn (.firstText TextToken.start)
    else if b = byte ']' then .error (.invalid (.tooShort 0))
    else wrong .text b
  | .firstText token =>
    match token.step b with
    | .ok (.more token) => goOn (.firstText token)
    | .ok (.done first) => goOn (.afterFirst first)
    | .error e => .error e
  | .afterFirst first =>
    if isBlank b then goOn part
    else if b = byte ',' then goOn (.secondSlot first)
    else if b = byte ']' then .error (.invalid (.tooShort 1))
    else .error .malformed
  | .secondSlot first =>
    if isBlank b then goOn part
    else if b = byte '"' then goOn (.secondText first TextToken.start)
    else wrong .text b
  | .secondText first token =>
    match token.step b with
    | .ok (.more token) => goOn (.secondText first token)
    | .ok (.done last) => goOn (.afterSecond first last)
    | .error e => .error e
  | .afterSecond first last =>
    if isBlank b then goOn part
    else if b = byte ']' then .ok (.done ⟨first, last⟩)
    else .error .malformed
  | .mistyped m => (m.step b).map fun m => .more (.mistyped m)

/-- What is wrong with a text that ends inside a record. -/
def atEnd (part : RecordPart) : Error :=
  match part with
  | .skipped _ skip => skip.atEnd
  | .mistyped m => m.atEnd
  | _ => .endOfInput

end RecordPart

end Roster.Json
