import Roster.Decimal.Layout
import Roster.Employee
import Roster.Text.Quoted

/-!
# `Roster.Json.Fault`: why a JSON text is not a record

Reading a text can fail in three ways. The text may stop where more of
it is needed, it may break the grammar, or it may be fine so far and
not be a record. Only the last kind has a reason that is told: a value
of the wrong type, a field twice or not at all, or an array of the
wrong length.
-/

set_option autoImplicit false

namespace Roster.Json

/-- What a reader expects where a value stands. -/
inductive Expected where
  | text
  | record
  | list
deriving DecidableEq, Repr

/-- A value of the wrong type, as far as it is told. -/
inductive Found where
  | null
  | boolean (value : Bool)
  | integer (value : Int)
  | floating (value : Float)
  | text (value : String)
  | list
  | object

/-- Why a value is not what was expected. -/
inductive Fault where
  | mistyped (found : Found) (expected : Expected)
  | duplicate (field : Employee.Field)
  | missing (field : Employee.Field)
  /-- An array that ends after `count` elements, where a record has
  two. -/
  | tooShort (count : Nat)

/-- Why a text cannot be read. -/
inductive Error where
  /-- The text stops where more of it is needed. -/
  | endOfInput
  /-- The text breaks the grammar. -/
  | malformed
  /-- A value is not what it should be. -/
  | invalid (fault : Fault)

/-- Floating-point numbers are told in positional notation from
`0.00001` up to sixteen digits before the point. -/
def numberLayout : Decimal.Layout := ⟨-5, 15⟩

/-- What is expected, in words. -/
def Expected.phrase : Expected → String
  | .text => "a string"
  | .record => "struct Employee"
  | .list => "a sequence"

/-- What was found, in words: scalars with their value, in back
quotes or in quotes. -/
def Found.phrase : Found → String
  | .null => "null"
  | .boolean true => "boolean `true`"
  | .boolean false => "boolean `false`"
  | .integer n => "integer `" ++ toString n ++ "`"
  | .floating x => "floating point `" ++ numberLayout.text x ++ "`"
  | .text s => "string " ++ Text.Quoted.text s
  | .list => "sequence"
  | .object => "map"

/-- The reason in words. -/
def Fault.message : Fault → String
  | .mistyped found expected =>
    "invalid type: " ++ found.phrase ++ ", expected " ++ expected.phrase
  | .duplicate field => "duplicate field `" ++ field.name ++ "`"
  | .missing field => "missing field `" ++ field.name ++ "`"
  | .tooShort count =>
    "invalid length " ++ toString count ++ ", expected struct Employee with 2 elements"

end Roster.Json
