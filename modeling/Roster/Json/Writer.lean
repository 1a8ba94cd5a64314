import Roster.Employee
import Roster.Text.Hex

/-!
# `Roster.Json.Writer`: records as JSON text

A record is written as an object with its two fields in the order of
their declaration, a list as an array, both with no blanks. In a string
only what the grammar demands is escaped: the quote, the backslash and
the control characters, those with a short escape by that escape and
the others by four lower-case hexadecimal digits.
-/

set_option autoImplicit false

namespace Roster.Json

/-- A character as it is written in a string. -/
def escape (c : Char) : List Char :=
  if c = '"' then ['\\', '"']
  else if c = '\\' then ['\\', '\\']
  else if c = '\x08' then ['\\', 'b']
  else if c = '\t' then ['\\', 't']
  else if c = '\n' then ['\\', 'n']
  else if c = '\x0c' then ['\\', 'f']
  else if c = '\r' then ['\\', 'r']
  else if c.toNat < 0x20 then
    ['\\', 'u', '0', '0', Text.hexDigit (c.toNat / 16), Text.hexDigit (c.toNat % 16)]
  else [c]

/-- A string, as characters. -/
def stringChars (s : String) : List Char :=
  '"' :: s.toList.flatMap escape ++ ['"']

/-- A member of an object: the field's name and its value. -/
def memberChars (field : Employee.Field) (value : String) : List Char :=
  stringChars field.name ++ ':' :: stringChars value

/-- A record, as characters. -/
def recordChars (e : Employee) : List Char :=
  '{' :: memberChars .firstName e.firstName
    ++ ',' :: memberChars .lastName e.lastName ++ ['}']

/-- The records after the first, each with the comma before it. -/
def tailChars : List Employee → List Char
  | [] => [']']
  | e :: rest => ',' :: recordChars e ++ tailChars rest

/-- A list of records, as characters. -/
def listChars : List Employee → List Char
  | [] => ['[', ']']
  | e :: rest => '[' :: recordChars e ++ tailChars rest

/-- The JSON text of a record. -/
def ofRecord (e : Employee) : String :=
  String.ofList (recordChars e)

/-- The JSON text of a list of records. -/
def ofRecords (records : List Employee) : String :=
  String.ofList (listChars records)

end Roster.Json
