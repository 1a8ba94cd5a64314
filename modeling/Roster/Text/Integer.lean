/-!
# `Roster.Text.Integer`: whole numbers in decimal digits

A whole number is written in ASCII digits, at least one, with a sign
before them that may be left out. A reader says which numbers it
admits, and refuses any other. Zeros in front change nothing.
-/

set_option autoImplicit false

namespace Roster.Text

/-- The number that digits spell. There must be one, and nothing
else. -/
def digits? (cs : List Char) : Option Nat :=
  if cs.isEmpty || !cs.all Char.isDigit then none
  else some (cs.foldl (fun n c => n * 10 + (c.toNat - 48)) 0)

/-- A number without a sign or with a plus, at most `greatest`. -/
def natural? (greatest : Nat) (cs : List Char) : Option Nat :=
  let digits := match cs with
    | '+' :: rest => rest
    | _ => cs
  (digits? digits).filter (· ≤ greatest)

/-- A number with or without a sign, from `least` to `greatest`. -/
def integer? (least greatest : Int) (cs : List Char) : Option Int :=
  let value : Option Int := match cs with
    | '+' :: rest => (digits? rest).map Int.ofNat
    | '-' :: rest => (digits? rest).map fun n => -(n : Int)
    | _ => (digits? cs).map Int.ofNat
  value.filter fun n => least ≤ n && n ≤ greatest

/-- The greatest number in 16 bits. -/
def greatest16 : Nat :=
  Nat.pow 2 16 - 1

/-- The greatest number in 32 bits. -/
def greatest32 : Nat :=
  Nat.pow 2 32 - 1

/-- The greatest number in 64 bits. -/
def greatest64 : Nat :=
  Nat.pow 2 64 - 1

end Roster.Text
