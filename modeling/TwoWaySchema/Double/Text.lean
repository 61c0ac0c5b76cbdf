import TwoWaySchema.Double.Shortest

/-!
# The text of a double

Two layouts write the digits of the shortest decimal.  Number text, the form of JSON, marks a whole
number by `.0` and turns to an exponent for very large and very small magnitudes.  Plain text, the
form used inside messages, writes every digit and no mark.
-/

namespace TwoWaySchema.Double

structure Layout where
  /-- Which exponents of the leading digit are written without an exponent part. -/
  isPositional : Int → Bool
  /-- What follows the digits of a whole number. -/
  wholeMark : String
  /-- Whether a tie between two shortest decimals goes up and not to the even digit. -/
  tieUp : Bool

def numberLayout : Layout where
  isPositional e := -5 ≤ e && e < 16
  wholeMark := ".0"
  tieUp := false

def plainLayout : Layout where
  isPositional _ := true
  wholeMark := ""
  tieUp := true

/-- The digits with a point set after `1 + exponent` of them. -/
def positional (layout : Layout) (digits : List Char) (exponent : Int) : String :=
  if exponent < 0 then
    "0." ++ String.ofList (List.replicate (-exponent - 1).toNat '0' ++ digits)
  else
    let whole := exponent.toNat + 1
    if digits.length ≤ whole then
      String.ofList (digits ++ List.replicate (whole - digits.length) '0') ++ layout.wholeMark
    else
      String.ofList (digits.take whole) ++ "." ++ String.ofList (digits.drop whole)

/-- One digit, the others after a point, and a signed exponent. -/
def scientific (digits : List Char) (exponent : Int) : String :=
  let mantissa :=
    match digits with
    | first :: second :: rest => String.ofList (first :: '.' :: second :: rest)
    | _ => String.ofList digits
  let sign := if exponent < 0 then "-" else "+"
  mantissa ++ "e" ++ sign ++ toString exponent.natAbs

def text (layout : Layout) (x : Double) : String :=
  if x.isNaN then "NaN"
  else
    let sign := if x.negative then "-" else ""
    if !x.isFinite then sign ++ "inf"
    else
      let d := x.shortestDecimal layout.tieUp
      let digits := Nat.toDigits 10 d.coefficient
      let exponent := d.exponent + digits.length - 1
      sign ++
        if layout.isPositional exponent then positional layout digits exponent
        else scientific digits exponent

/-- The text of a double as a JSON number: `1.0`, `0.00001`, `1e+16`, `-0.0`. -/
def numberText (x : Double) : String :=
  x.text numberLayout

/-- The text of a double inside a message: `1`, `0.1`, `-0`, never an exponent. -/
def plainText (x : Double) : String :=
  x.text plainLayout

end TwoWaySchema.Double
