import Roster.Tables.Database

/-!
# `Roster.Tables.Wording`: statements in words

The text of each statement, with its white space collapsed, and its
arguments. Errands are not told.
-/

set_option autoImplicit false

namespace Roster.Tables

/-- The places of the arguments of one row. -/
def placeholders (row : Nat) : String :=
  "($" ++ toString (2 * row + 1) ++ ", $" ++ toString (2 * row + 2) ++ ")"

/-- The text of a statement, if it is told. -/
def Statement.text? : Statement → Option String
  | .begin => some "BEGIN"
  | .delete => some "DELETE FROM employees"
  | .insert records =>
    some ("INSERT INTO employees (first_name, last_name) VALUES "
      ++ ", ".intercalate ((List.range records.length).map placeholders))
  | .select => some "SELECT first_name, last_name FROM employees ORDER BY id"
  | .commit => some "COMMIT"
  | .rollback => some "ROLLBACK"
  | .create =>
    some ("CREATE TABLE IF NOT EXISTS employees ( id BIGSERIAL PRIMARY KEY, "
      ++ "first_name TEXT NOT NULL, last_name TEXT NOT NULL );")
  | .record version description =>
    some ("MIGRATED " ++ toString version ++ " " ++ description)
  | .errand _ => none

/-- The arguments of a statement. -/
def Statement.arguments : Statement → List String
  | .insert records => records.flatMap fun e => [e.firstName, e.lastName]
  | _ => []

end Roster.Tables
