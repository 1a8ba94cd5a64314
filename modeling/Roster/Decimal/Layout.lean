import Roster.Decimal.Shortest

/-!
# `Roster.Decimal.Layout`: where the point and the exponent go

The text of a decimal number, positional or with an exponent. Which of
the two is used depends on the exponent of the leading digit alone. A
positional number always shows a point with a digit on each side of it.
-/

set_option autoImplicit false

namespace Roster.Decimal

/-- The exponents of the leading digit that are written in positional
notation. -/
structure Layout where
  least : Int
  greatest : Int

/-- A number in positional notation, from its digits and the exponent
of the last one. -/
def positional (digits : List Char) (exponent : Int) : List Char :=
  let zeros (n : Nat) := List.replicate n '0'
  if 0 ≤ exponent then digits ++ zeros exponent.toNat ++ ['.', '0']
  else
    let places := (-exponent).toNat
    if places < digits.length then
      digits.take (digits.length - places) ++ '.' :: digits.drop (digits.length - places)
    else ['0', '.'] ++ zeros (places - digits.length) ++ digits

/-- A number with an exponent, from its digits and the exponent of the
first one, which is written with its sign. -/
def scientific (digits : List Char) (exponent : Int) : List Char :=
  let mantissa := match digits with
    | [] => []
    | [d] => [d]
    | d :: rest => d :: '.' :: rest
  let sign := if exponent < 0 then '-' else '+'
  mantissa ++ 'e' :: sign :: Nat.toDigits 10 exponent.natAbs

/-- The text of a decimal. -/
def Layout.chars (layout : Layout) (d : Scaled) : List Char :=
  let digits := Nat.toDigits 10 d.digits
  let leading := d.exponent + digits.length - 1
  if layout.least ≤ leading ∧ leading ≤ layout.greatest then positional digits d.exponent
  else scientific digits leading

/-- The text of a finite double in the fewest digits that read back. A
negative number starts with its sign, and so does a negative zero. -/
def Layout.text (layout : Layout) (x : Float) : String :=
  let sign := if x.toBits.toNat < Nat.pow 2 63 then [] else ['-']
  String.ofList (sign ++ layout.chars (shortest x.toBits))

end Roster.Decimal
