/-!
# Doubles

A double is its three IEEE binary64 fields.  Nothing here rounds behind the reader's back: the
magnitude of a finite double is a natural number of units of `2 ^ (-1074)`, the smallest positive
double, so comparison, integrality and conversion are statements about `Nat` and `Int`.  The one
place that rounds is `ofRatio`, which takes a nonnegative fraction to the nearest double and an
exact tie to the even significand.
-/

namespace TwoWaySchema

structure Double where
  negative : Bool
  /-- The biased exponent; 0 marks zero and the subnormals, 2047 the infinities and NaN. -/
  exponent : Fin 2048
  /-- The significand without its leading bit, of which there are `2 ^ 52`. -/
  fraction : Fin (Nat.pow 2 52)
deriving DecidableEq, Repr

namespace Double

def isFinite (x : Double) : Bool :=
  x.exponent.val != 2047

def isNaN (x : Double) : Bool :=
  x.exponent.val == 2047 && x.fraction.val != 0

def nan : Double := ⟨false, 2047, ⟨Nat.pow 2 51, by decide⟩⟩

def infinity (negative : Bool) : Double := ⟨negative, 2047, 0⟩

def zero : Double := ⟨false, 0, 0⟩

instance : Inhabited Double := ⟨zero⟩

/-- The integer significand, with the leading bit of a normal double made explicit. -/
def significand (x : Double) : Nat :=
  if x.exponent.val = 0 then x.fraction.val else Nat.pow 2 52 + x.fraction.val

/-- The significand counts steps of `2 ^ shift` units. -/
def shift (x : Double) : Nat :=
  x.exponent.val - 1

/-- The number of units of `2 ^ (-1074)` in the magnitude of a finite double. -/
def units (x : Double) : Nat :=
  x.significand * Nat.pow 2 x.shift

/-- The units of a finite double with its sign; both zeros have none. -/
def signedUnits (x : Double) : Int :=
  if x.negative then -(x.units : Int) else x.units

/-- One, measured in units. -/
def unitsPerOne : Nat := Nat.pow 2 1074

/-- The double whose magnitude has the given units, for units that some double has; larger
magnitudes than every finite double give infinity. -/
def ofUnits (negative : Bool) (units : Nat) : Double :=
  if h : units < Nat.pow 2 52 then ⟨negative, 0, ⟨units, h⟩⟩
  else
    let shift := units.log2 - 52
    if h : shift + 1 < 2047 then
      ⟨negative, ⟨shift + 1, Nat.lt_succ_of_lt h⟩,
        ⟨(units / Nat.pow 2 shift - Nat.pow 2 52) % Nat.pow 2 52, Nat.mod_lt _ (by decide)⟩⟩
    else infinity negative

/-- The integer nearest to a quotient; a half goes to the even neighbour. -/
def roundHalfEven (numerator denominator : Nat) : Nat :=
  let floor := numerator / denominator
  let twice := 2 * (numerator % denominator)
  if twice < denominator then floor
  else if denominator < twice then floor + 1
  else if floor % 2 = 0 then floor else floor + 1

/-- The double nearest to `± numerator / denominator`; a tie goes to the even significand, and a
magnitude that rounds past the largest finite double is infinite. -/
def ofRatio (negative : Bool) (numerator denominator : Nat) : Double :=
  let scaled := numerator * unitsPerOne
  let shift := (scaled / denominator).log2 - 52
  ofUnits negative (roundHalfEven scaled (denominator * Nat.pow 2 shift) * Nat.pow 2 shift)

/-- The double nearest to an integer, ties to even. -/
def ofInt (n : Int) : Double :=
  ofRatio (n < 0) n.natAbs 1

instance (n : Nat) : OfNat Double n := ⟨ofInt n⟩

/-- Whether a finite double is a whole number. -/
def isIntegral (x : Double) : Bool :=
  x.isFinite && x.units % unitsPerOne == 0

/-- The whole part, toward zero. -/
def truncate (x : Double) : Int :=
  let whole : Int := x.units / unitsPerOne
  if x.negative then -whole else whole

/-- The whole part as a 64-bit integer: where there is none the nearest one, and 0 for NaN. -/
def toInt64 (x : Double) : Int64 :=
  if x.isNaN then 0 else .ofIntClamp x.truncate

/-- The whole number that a double is, when its magnitude is below `2 ^ 53`: there every whole
number is a double, so nothing was rounded on the way. -/
def exactInt? (x : Double) : Option Int :=
  if x.isIntegral && x.units < Nat.pow 2 53 * unitsPerOne then some x.truncate else none

/-- The place of a double on the extended number line: every finite double lies strictly between
the infinities. -/
def position (x : Double) : Int :=
  if x.isFinite then x.signedUnits
  else if x.negative then -(Nat.pow 2 2100 : Nat) else (Nat.pow 2 2100 : Nat)

/-- Numeric equality: the zeros are equal and NaN differs from everything. -/
instance : BEq Double where
  beq x y := !x.isNaN && !y.isNaN && x.position == y.position

/-- Numeric order, false whenever NaN takes part. -/
def le (x y : Double) : Bool :=
  !x.isNaN && !y.isNaN && x.position ≤ y.position

def lt (x y : Double) : Bool :=
  !x.isNaN && !y.isNaN && x.position < y.position

end Double

end TwoWaySchema
