/-!
# Shortest decimal form of a binary number

A binary floating-point number stands for every real number that rounds to it. Among the decimal
numbers in that interval the shortest form takes one with the fewest digits and, of those, the one
nearest to the exact value. The ends of the interval belong to it if the significand is even,
because ties round to even.

The search walks the decimal grids from coarse to fine. A grid meets the interval if and only if one
of the two grid points around the exact value does, so two candidates for each grid are enough.
-/

namespace ImageFlow.Decimal

/-- The reals that round to a number: a lower end, the exact value and an upper end, all over one
denominator. -/
structure Interval where
  low : Nat
  exact : Nat
  high : Nat
  denominator : Nat
  /-- Whether the ends belong to the interval. -/
  closed : Bool
  deriving Repr

/-- A decimal number: `digits * 10 ^ exponent`. -/
structure Numeral where
  digits : Nat
  exponent : Int
  deriving DecidableEq, Repr

/-- The interval of `significand * 2 ^ exponent`. Below a power of two the next number is only half
as far away as above it, which `narrow` records. -/
def Interval.ofBinary (significand : Nat) (exponent : Int) (narrow : Bool) : Interval :=
  let scale := fun n : Nat ↦ n * Nat.pow 2 exponent.toNat
  { low := scale (4 * significand - if narrow then 1 else 2)
    exact := scale (4 * significand)
    high := scale (4 * significand + 2)
    denominator := 4 * Nat.pow 2 (-exponent).toNat
    closed := significand % 2 == 0 }

/-- Whether `point * unit / denominator` lies in the interval. -/
def Interval.holds (i : Interval) (point : Nat) : Bool :=
  if i.closed then i.low ≤ point && point ≤ i.high else i.low < point && point < i.high

/-- The best point of the grid with step `10 ^ exponent`, if the grid meets the interval. On a tie
the larger point is taken. -/
def Interval.onGrid? (i : Interval) (exponent : Int) : Option Numeral :=
  let step := i.denominator * Nat.pow 10 exponent.toNat
  let scale := Nat.pow 10 (-exponent).toNat
  let scaled : Interval :=
    { i with low := i.low * scale, exact := i.exact * scale, high := i.high * scale }
  let below := scaled.exact / step
  let above := below + 1
  let fits := fun n : Nat ↦ n != 0 && scaled.holds (n * step)
  if fits below && fits above then
    let nearer := if 2 * (scaled.exact - below * step) < step then below else above
    some ⟨nearer, exponent⟩
  else if fits below then some ⟨below, exponent⟩
  else if fits above then some ⟨above, exponent⟩
  else none

/-- Tries `count` grids, from the step `10 ^ start` downwards. -/
def Interval.search (i : Interval) (start : Int) : Nat → Option Numeral
  | 0 => none
  | count + 1 =>
    match i.onGrid? start with
    | some d => some d
    | none => i.search (start - 1) count

end ImageFlow.Decimal
