import Roster.Text.Split

/-!
# `Roster.Url.Punycode`: labels of other scripts in ASCII

A label of a domain is spelled in ASCII by its ASCII characters and,
after a hyphen, by digits of base 36 that tell where the others go.
Numbers follow one another in these digits: each says how many places
to step before the next character is put in, one place being a code
point and a position among the characters so far. How many digits a
number has is told by a threshold for each of them, which adapts to the
numbers before.
-/

set_option autoImplicit false

namespace Roster.Url.Punycode

/-- The value of a digit. -/
def digitValue? (c : Char) : Option Nat :=
  if 'a' ≤ c && c ≤ 'z' then some (c.toNat - 97)
  else if 'A' ≤ c && c ≤ 'Z' then some (c.toNat - 65)
  else if c.isDigit then some (c.toNat - 22)
  else none

/-- The threshold of a digit: a digit below it is the last one of its
number. -/
def threshold (position bias : Nat) : Nat :=
  min 26 (max 1 (position - bias))

/-- The bias and the position after a step is divided down. -/
def adaptFrom (step bias : Nat) : Nat :=
  if 455 < step then adaptFrom (step / 35) (bias + 36)
  else bias + 36 * step / (step + 38)
termination_by step

/-- The bias after a step, with the number of characters that there are
then. The first step is taken to be exceptional. -/
def adapt (step count : Nat) (first : Bool) : Nat :=
  let step := if first then step / 700 else step / 2
  adaptFrom (step + step / count) 0

/-- What was read so far. -/
structure Progress where
  characters : List Char
  /-- The code point and the position that were reached. -/
  code : Nat
  position : Nat
  bias : Nat
  /-- The number that is being read, the weight of its next digit, and
  36 times the place of that digit. -/
  step : Nat
  weight : Nat
  place : Nat

/-- The progress before the first number. -/
def Progress.start (ascii : List Char) : Progress :=
  ⟨ascii, 128, 0, 72, 0, 1, 36⟩

/-- The progress after a number is complete: one more character. -/
def Progress.put? (p : Progress) : Option Progress :=
  let count := p.characters.length + 1
  let places := p.position + p.step
  let code := p.code + places / count
  let position := places % count
  if code.isValidChar then
    some
      { characters := p.characters.take position ++ Char.ofNat code :: p.characters.drop position
        code
        position := position + 1
        bias := adapt p.step count (p.position = 0)
        step := 0
        weight := 1
        place := 36 }
  else none

/-- The progress after one more digit. -/
def Progress.read? (p : Progress) (c : Char) : Option Progress :=
  (digitValue? c).bind fun digit =>
    let p' := { p with step := p.step + digit * p.weight }
    let least := threshold p.place p.bias
    if digit < least then p'.put?
    else some { p' with weight := p.weight * (36 - least), place := p.place + 36 }

/-- The label that a text in ASCII spells. The last number must be
complete. -/
def decode? (cs : List Char) : Option (List Char) :=
  let (ascii, digits) := (Text.splitLast? '-' cs).getD ([], cs)
  match digits.foldlM Progress.read? (.start ascii) with
  | some p => if p.place = 36 then some p.characters else none
  | none => none

end Roster.Url.Punycode
