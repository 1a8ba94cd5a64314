import Roster.Employee
import Roster.Text.Quoted

/-!
# `Roster.Employee.Shown`: records in messages

How a record and a list of records are spelled in a message: the names
in quotes, the fields labelled, the records of a list in brackets with
commas between them. The names are escaped, so a message stays on one
line and shows which records it speaks of.
-/

set_option autoImplicit false

namespace Roster.Employee

/-- A record as it is shown, as characters. -/
def shownChars (e : Employee) : List Char :=
  "Employee \x7b first_name: ".toList ++ Text.Quoted.chars e.firstName
    ++ ", last_name: ".toList ++ Text.Quoted.chars e.lastName ++ " \x7d".toList

/-- The records after the first, each with the comma before it. -/
def shownTail : List Employee → List Char
  | [] => [']']
  | e :: rest => ',' :: ' ' :: shownChars e ++ shownTail rest

/-- A list of records as it is shown, as characters. -/
def shownListChars : List Employee → List Char
  | [] => ['[', ']']
  | e :: rest => '[' :: shownChars e ++ shownTail rest

/-- A list of records as it is shown. -/
def shownList (records : List Employee) : String :=
  String.ofList (shownListChars records)

end Roster.Employee
