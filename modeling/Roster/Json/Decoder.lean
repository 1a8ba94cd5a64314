import Roster.Json.RecordReader

/-!
# `Roster.Json.Decoder`: reading records from JSON text

Two readers of whole texts, one for a single record and one for a list
of records. Blanks may stand around the value, and nothing else.
-/

set_option autoImplicit false

namespace Roster.Json

/-- A text that holds one record. -/
inductive SingleState where
  | reading (part : RecordPart)
  | finished (record : Employee)

/-- One byte of a text that holds one record. -/
def SingleState.step (state : SingleState) (b : UInt8) : Except Error SingleState :=
  match state with
  | .reading part => (part.step b).map (Progress.advance .reading .finished)
  | .finished _ => if isBlank b then .ok state else .error .malformed

/-- The meaning of a text that ends here. -/
def SingleState.finish : SingleState → Except Error Employee
  | .reading part => .error part.atEnd
  | .finished record => .ok record

/-- The reader of a single record. -/
def singleReader : Reader SingleState Employee :=
  ⟨.reading .opening, SingleState.step, SingleState.finish⟩

/-- A text that holds a list of records. Of the records that have been
read the last comes first. -/
inductive ListState where
  /-- The opening bracket, after blanks. -/
  | opening
  /-- After the opening bracket: a record, or the closing bracket. -/
  | opened
  /-- After a comma: a record. -/
  | nextRecord (records : List Employee)
  | reading (records : List Employee) (part : RecordPart)
  /-- After a record: a comma or the closing bracket. -/
  | ended (records : List Employee)
  /-- A value of the wrong type in place of the list. -/
  | mistyped (value : Mistyped)
  | finished (records : List Employee)

namespace ListState

/-- One byte of a record in the list. -/
def recordStep (records : List Employee) (part : RecordPart) (b : UInt8) :
    Except Error ListState :=
  (part.step b).map (Progress.advance (.reading records) fun e => .ended (e :: records))

/-- One byte of a text that holds a list of records. -/
def step (state : ListState) (b : UInt8) : Except Error ListState :=
  match state with
  | .opening =>
    if isBlank b then .ok state
    else if b = byte '[' then .ok .opened
    else (Mistyped.start .list b).map .mistyped
  | .opened =>
    if isBlank b then .ok state
    else if b = byte ']' then .ok (.finished [])
    else recordStep [] .opening b
  | .nextRecord records =>
    if isBlank b then .ok state
    else if b = byte ']' then .error .malformed
    else recordStep records .opening b
  | .reading records part => recordStep records part b
  | .ended records =>
    if isBlank b then .ok state
    else if b = byte ',' then .ok (.nextRecord records)
    else if b = byte ']' then .ok (.finished records.reverse)
    else .error .malformed
  | .mistyped m => (m.step b).map .mistyped
  | .finished _ => if isBlank b then .ok state else .error .malformed

/-- The meaning of a text that ends here. -/
def finish : ListState → Except Error (List Employee)
  | .reading _ part => .error part.atEnd
  | .mistyped m => .error m.atEnd
  | .finished records => .ok records
  | .opening | .opened | .nextRecord _ | .ended _ => .error .endOfInput

end ListState

/-- The reader of a list of records. -/
def listReader : Reader ListState (List Employee) :=
  ⟨.opening, ListState.step, ListState.finish⟩

/-- The record that a text holds. -/
def decodeRecord (bytes : List UInt8) : Except Error Employee :=
  singleReader.run bytes

/-- The list of records that a text holds. -/
def decodeRecords (bytes : List UInt8) : Except Error (List Employee) :=
  listReader.run bytes

end Roster.Json
