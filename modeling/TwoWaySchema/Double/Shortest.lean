import TwoWaySchema.Numeral

/-!
# Shortest decimals

The shortest decimal of a double is the one with the fewest digits among all decimals that read
back as the same double, and the nearest of those.  It is found on one decimal grid after another:
if a point of a grid lies in the interval of numbers that round to the double, so does one of the
two grid points around the double itself.  All arithmetic is exact.
-/

namespace TwoWaySchema.Double

/-- The numbers that round to a positive finite double, as multiples of `1 / scale`; the ends
belong to the interval when the significand is even. -/
structure ReadingInterval where
  low : Nat
  value : Nat
  high : Nat
  scale : Nat
  closed : Bool

/-- Below a power of two the doubles are twice as dense, so there the lower end is nearer. -/
def readingInterval (x : Double) : ReadingInterval :=
  let step := Nat.pow 2 x.shift
  let below := if x.fraction.val = 0 && 1 < x.exponent.val then step else 2 * step
  { low := 4 * x.units - below
    value := 4 * x.units
    high := 4 * x.units + 2 * step
    scale := 4 * unitsPerOne
    closed := x.significand % 2 = 0 }

namespace ReadingInterval

/-- Whether `n / denominator`, with the interval's bounds multiplied by `factor`, lies in it. -/
def contains (i : ReadingInterval) (factor n denominator : Nat) : Bool :=
  let low := i.low * factor
  let high := i.high * factor
  let point := n * denominator
  if i.closed then low ≤ point && point ≤ high else low < point && point < high

/-- The point of the grid of multiples of `10 ^ exponent` that is nearest to the value among
those in the interval.  A tie goes to the even digit, or up where `tieUp` says so. -/
def nearestOnGrid? (i : ReadingInterval) (tieUp : Bool) (exponent : Int) : Option Nat :=
  let factor := if exponent < 0 then Nat.pow 10 (-exponent).toNat else 1
  let denominator := if exponent < 0 then i.scale else i.scale * Nat.pow 10 exponent.toNat
  let value := i.value * factor
  let down := value / denominator
  let remainder := value % denominator
  let downFits := i.contains factor down denominator
  let upFits := i.contains factor (down + 1) denominator
  if downFits && upFits then
    let upIsNearer :=
      denominator < 2 * remainder || (denominator == 2 * remainder && (tieUp || down % 2 == 1))
    some (if upIsNearer then down + 1 else down)
  else if downFits then some down
  else if upFits then some (down + 1)
  else none

end ReadingInterval

/-- The exponent of the leading decimal digit of a positive finite double. -/
def leadingExponent (x : Double) : Int :=
  (Decimal.decimalLength (x.units * Nat.pow 10 340 / unitsPerOne) : Int) - 341

/-- Moves trailing zeros of the coefficient into the exponent; a double has at most 309 digits
before its point, so `fuel` of that size removes them all. -/
def dropTrailingZeros (fuel : Nat) (d : Decimal) : Decimal :=
  match fuel with
  | 0 => d
  | fuel + 1 =>
    if d.coefficient ≠ 0 && d.coefficient % 10 = 0 then
      dropTrailingZeros fuel
        { d with coefficient := d.coefficient / 10, exponent := d.exponent + 1 }
    else d

/-- Tries the grids with this many digits and more. -/
def shortestFrom (x : Double) (tieUp : Bool) : (digits : Nat) → (more : Nat) → Decimal
  | digits, more =>
    let exponent := x.leadingExponent - (digits - 1 : Nat)
    match x.readingInterval.nearestOnGrid? tieUp exponent, more with
    | some n, _ => ⟨x.negative, n, exponent⟩
    | none, 0 => ⟨x.negative, 0, 0⟩
    | none, more + 1 => shortestFrom x tieUp (digits + 1) more
termination_by structural _ more => more

/-- The shortest decimal that reads back as a finite double; seventeen digits always suffice. -/
def shortestDecimal (x : Double) (tieUp : Bool) : Decimal :=
  if x.units = 0 then ⟨x.negative, 0, 0⟩
  else dropTrailingZeros 20 (shortestFrom x tieUp 1 16)

end TwoWaySchema.Double
