import Roster.Decimal.Double
import Roster.Json.Byte
import Roster.Json.Progress

/-!
# `Roster.Json.Numeral`: numbers

The grammar of a number, byte by byte, and the value of a number that
is told in a message. A number has no closing byte: it ends before the
first byte that cannot belong to it, or with the text.

A number with neither a point nor an exponent is an integer if it fits
in 64 bits, with or without a sign. Any other is a double, and so is
the negative zero, which no integer tells from zero. A number beyond
the doubles has no value.
-/

set_option autoImplicit false

namespace Roster.Json

/-- The part of a number that was read last. -/
inductive NumberPart where
  | minus
  | zero
  | whole
  | point
  | fraction
  | mark
  | sign
  | exponent
deriving DecidableEq, Repr

/-- What a byte is to a number. -/
inductive NumberStep where
  /-- It belongs to the number. -/
  | more (part : NumberPart)
  /-- It stands after the number. -/
  | ends
  /-- It can neither belong to the number nor stand after it. -/
  | malformed
deriving DecidableEq, Repr

namespace NumberPart

/-- The part that a first byte opens, if a number starts with it. -/
def first? (b : UInt8) : Option NumberPart :=
  if b = byte '-' then some .minus
  else if b = byte '0' then some .zero
  else if isDigit b then some .whole
  else none

/-- What follows the digits before the point, when it is no digit. -/
def afterWhole (b : UInt8) : NumberStep :=
  if b = byte '.' then .more .point
  else if b = byte 'e' || b = byte 'E' then .more .mark
  else .ends

/-- What the next byte is to a number. No digit may follow a leading
zero, and a digit must follow the sign, the point and the exponent
mark. -/
def next (part : NumberPart) (b : UInt8) : NumberStep :=
  match part with
  | .minus =>
    if b = byte '0' then .more .zero else if isDigit b then .more .whole else .malformed
  | .zero => if isDigit b then .malformed else afterWhole b
  | .whole => if isDigit b then .more .whole else afterWhole b
  | .point => if isDigit b then .more .fraction else .malformed
  | .fraction =>
    if isDigit b then .more .fraction
    else if b = byte 'e' || b = byte 'E' then .more .mark
    else .ends
  | .mark =>
    if b = byte '+' || b = byte '-' then .more .sign
    else if isDigit b then .more .exponent
    else .malformed
  | .sign => if isDigit b then .more .exponent else .malformed
  | .exponent => if isDigit b then .more .exponent else .ends

/-- Whether a number may end here. -/
def isComplete : NumberPart → Bool
  | .zero | .whole | .fraction | .exponent => true
  | .minus | .point | .mark | .sign => false

end NumberPart

/-- A number of which some bytes have been read. The last digit of each
part comes first. -/
structure Numeral where
  part : NumberPart
  negative : Bool
  whole : List Nat
  fraction : List Nat
  exponentNegative : Bool
  exponent : List Nat
  /-- Whether a point or an exponent has been read. -/
  real : Bool

namespace Numeral

/-- The number with one more byte, which belongs to `part`. -/
def push (n : Numeral) (part : NumberPart) (b : UInt8) : Numeral :=
  match part with
  | .minus => { n with part, negative := true }
  | .zero | .whole => { n with part, whole := digitValue b :: n.whole }
  | .point | .mark => { n with part, real := true }
  | .fraction => { n with part, fraction := digitValue b :: n.fraction }
  | .sign => { n with part, exponentNegative := b = byte '-' }
  | .exponent => { n with part, exponent := digitValue b :: n.exponent }

/-- A number of which the first byte has been read. -/
def start (part : NumberPart) (b : UInt8) : Numeral :=
  push ⟨part, false, [], [], false, [], false⟩ part b

/-- The significand of a decimal in 64 bits, and the power of ten that
makes up for the digits that it leaves out or has behind the point. -/
structure Significand where
  value : Nat
  exponent : Int
deriving DecidableEq, Repr

/-- Whether one more digit fits in 64 bits. -/
def Significand.fits (s : Significand) (digit : Nat) : Bool :=
  s.value * 10 + digit < Nat.pow 2 64

/-- The significand of the digits before the point. Once a digit does
not fit, it and all that follow are left out, each counting as a power
of ten. -/
def Significand.ofWhole (digits : List Nat) : Significand :=
  digits.foldl
    (fun s d => if s.exponent = 0 && s.fits d then ⟨s.value * 10 + d, 0⟩
      else ⟨s.value, s.exponent + 1⟩)
    ⟨0, 0⟩

/-- The significand with the digits behind the point. Once a digit does
not fit, it and all that follow are dropped. -/
def Significand.withFraction (s : Significand) : List Nat → Significand
  | [] => s
  | d :: rest =>
    if s.fits d then withFraction ⟨s.value * 10 + d, s.exponent - 1⟩ rest else s

/-- The number that decimal digits spell, the last digit first. -/
def ofDigits (digits : List Nat) : Nat :=
  digits.foldr (fun d n => n * 10 + d) 0

/-- The number as a double, or nothing if it is out of range. -/
def double? (n : Numeral) : Option Float :=
  let s := (Significand.ofWhole n.whole.reverse).withFraction n.fraction.reverse
  let exponent : Int := ofDigits n.exponent
  let exponent := if n.exponentNegative then -exponent else exponent
  (Decimal.toDouble? s.value.toUInt64 (s.exponent + exponent)).map fun x =>
    if n.negative then -x else x

/-- The number as an integer, if it has neither point nor exponent and
fits in 64 bits, and unless it is the negative zero. -/
def integer? (n : Numeral) : Option Int :=
  let value := ofDigits n.whole
  if n.real then none
  else if n.negative then
    if 0 < value ∧ value ≤ Nat.pow 2 63 then some (-(value : Int)) else none
  else if value < Nat.pow 2 64 then some value else none

/-- The number as it is told in a message, or nothing if it is out of
range. -/
def found? (n : Numeral) : Option Found :=
  match n.integer? with
  | some i => some (.integer i)
  | none => n.double?.map .floating

end Numeral

end Roster.Json
