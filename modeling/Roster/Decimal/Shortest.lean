/-!
# `Roster.Decimal.Shortest`: the fewest digits that read back

A double is read back from any decimal that is nearer to it than to
its neighbours. Of these decimals `shortest` gives one with the fewest
digits, and of those the one nearest to the double; of two equally near
ones, that with the even last digit.

All arithmetic is exact. A double is a natural number times a power of
two, so the ends of the interval that reads back to it are quotients of
natural numbers. On a grid of powers of ten, only the two neighbours of
the double need a test: if any point of the grid reads back, one of
them does.
-/

set_option autoImplicit false

namespace Roster.Decimal

/-- The number `digits * 10 ^ exponent`. -/
structure Scaled where
  digits : Nat
  exponent : Int
deriving DecidableEq, Repr

/-- A positive double with the ends of the interval that reads back to
it, as quotients over one denominator. -/
structure Interval where
  low : Nat
  value : Nat
  high : Nat
  denominator : Nat
  /-- Whether the ends read back too. -/
  closed : Bool

/-- The interval of the double `mantissa * 2 ^ exponent`. The
neighbour below a power of two is half as far away as the one above,
unless the double is among the smallest. A tie between two doubles goes
to the even mantissa, so the ends belong to the interval of an even
one. -/
def Interval.ofBinary (mantissa : Nat) (exponent : Int) : Interval :=
  let low :=
    if mantissa = Nat.pow 2 52 ∧ -1074 < exponent then 4 * mantissa - 1 else 4 * mantissa - 2
  let unit := exponent - 2
  let up := Nat.pow 2 unit.toNat
  { low := low * up
    value := 4 * mantissa * up
    high := (4 * mantissa + 2) * up
    denominator := Nat.pow 2 (-unit).toNat
    closed := mantissa % 2 == 0 }

/-- The interval of a double given by its bits, the sign left out. -/
def Interval.ofBits (bits : UInt64) : Interval :=
  let fraction := bits.toNat % Nat.pow 2 52
  let biased := bits.toNat / Nat.pow 2 52 % Nat.pow 2 11
  if biased = 0 then ofBinary fraction (-1074)
  else ofBinary (Nat.pow 2 52 + fraction) (Int.ofNat biased - 1075)

/-- A grid of decimals, `10 ^ exponent` apart: `step` over `denominator`
is the width of a cell. -/
structure Grid where
  step : Nat
  denominator : Nat

/-- The grid with cells `10 ^ exponent` wide. -/
def Grid.ofExponent (exponent : Int) : Grid :=
  ⟨Nat.pow 10 exponent.toNat, Nat.pow 10 (-exponent).toNat⟩

/-- Whether the point number `n` of a grid reads back. -/
def Interval.holds (i : Interval) (g : Grid) (n : Nat) : Bool :=
  let point := n * g.step * i.denominator
  let low := i.low * g.denominator
  let high := i.high * g.denominator
  if i.closed then low ≤ point && point ≤ high else low < point && point < high

/-- The nearest point of a grid that reads back, if any does. -/
def Interval.nearest? (i : Interval) (g : Grid) : Option Nat :=
  let cell := g.step * i.denominator
  let value := i.value * g.denominator
  let below := value / cell
  let rest := value % cell
  match i.holds g below, i.holds g (below + 1) with
  | false, false => none
  | true, false => some below
  | false, true => some (below + 1)
  | true, true =>
    if 2 * rest < cell then some below
    else if cell < 2 * rest then some (below + 1)
    else if below % 2 = 0 then some below else some (below + 1)

/-- How many decimal digits a number has. -/
def digitCount (n : Nat) : Nat :=
  (Nat.toDigits 10 n).length

/-- The power of ten that bounds a double from above. Every positive
double is above `10 ^ (-400)`, so scaling it by the inverse leaves a
number of at least one digit. -/
def Interval.magnitude (i : Interval) : Int :=
  Int.ofNat (digitCount (i.value * Nat.pow 10 400 / i.denominator)) - 400

/-- The same number with no zero at the end of its digits. At most
`fuel` zeros are taken off. -/
def Scaled.strip : Nat → Scaled → Scaled
  | 0, d => d
  | fuel + 1, d =>
    if d.digits % 10 = 0 then strip fuel ⟨d.digits / 10, d.exponent + 1⟩ else d

/-- The fewest digits that read back to a positive double. Seventeen
always suffice, so the grids of one to seventeen digits are tried in
turn. -/
def Interval.shortest (i : Interval) : Scaled :=
  let top := i.magnitude
  let candidates := (List.range 17).filterMap fun n =>
    let exponent := top - Int.ofNat (n + 1)
    (i.nearest? (Grid.ofExponent exponent)).map (⟨·, exponent⟩)
  match candidates.head? with
  | some d => Scaled.strip 18 d
  | none => ⟨0, 0⟩

/-- The fewest digits that read back to a finite double, its sign left
out. Zero has no digits but a zero. -/
def shortest (bits : UInt64) : Scaled :=
  if bits.toNat % Nat.pow 2 63 = 0 then ⟨0, 0⟩ else (Interval.ofBits bits).shortest

end Roster.Decimal
