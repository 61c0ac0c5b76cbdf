import TwoWaySchema.Double

/-!
# Numerals

The texts that stand for numbers: decimal integers, decimal fractions with an optional exponent,
and hexadecimal integers.  Each reader takes the whole text or nothing.  A decimal fraction is
read to the exact `Decimal` it denotes first; `Decimal.toDouble` is the only rounding step.
-/

namespace TwoWaySchema

namespace Numeral

/-- The value of an ASCII digit in some base up to sixteen, without a check. -/
def digitValue (c : Char) : Nat :=
  if c.isDigit then c.toNat - '0'.toNat
  else if 'a' ≤ c then c.toNat - 'a'.toNat + 10
  else c.toNat - 'A'.toNat + 10

def isHexDigit (c : Char) : Bool :=
  c.isDigit || ('a' ≤ c && c ≤ 'f') || ('A' ≤ c && c ≤ 'F')

/-- The number that a run of digits writes, most significant digit first. -/
def natOfDigits (base : Nat) (digits : List Char) : Nat :=
  digits.foldl (fun n c ↦ base * n + digitValue c) 0

def withSign (negative : Bool) (magnitude : Nat) : Int :=
  if negative then -(magnitude : Int) else magnitude

/-- Takes an optional sign, either `+` or `-`. -/
def takeSign : List Char → Bool × List Char
  | '-' :: rest => (true, rest)
  | '+' :: rest => (false, rest)
  | text => (false, text)

/-- An optional sign and at least one decimal digit. -/
def integer? (text : List Char) : Option Int :=
  let (negative, digits) := takeSign text
  if !digits.isEmpty && digits.all Char.isDigit then
    some (withSign negative (natOfDigits 10 digits))
  else none

def dropHexMark : List Char → List Char
  | '0' :: 'x' :: rest => rest
  | '0' :: 'X' :: rest => rest
  | text => text

/-- An optional minus sign, an optional `0x` or `0X`, and at least one hexadecimal digit. -/
def hexInteger? (text : List Char) : Option Int :=
  let (negative, rest) :=
    match text with
    | '-' :: rest => (true, rest)
    | _ => (false, text)
  let digits := dropHexMark rest
  if !digits.isEmpty && digits.all isHexDigit then
    some (withSign negative (natOfDigits 16 digits))
  else none

end Numeral

/-- The exact number `± coefficient * 10 ^ exponent`. -/
structure Decimal where
  negative : Bool
  coefficient : Nat
  exponent : Int
deriving DecidableEq, Repr

namespace Decimal

open Numeral

def decimalLength (n : Nat) : Nat :=
  (Nat.toDigits 10 n).length

/-- The nearest double.  Magnitudes from `10 ^ 310` up and below `10 ^ (-400)` are decided by
their length alone, so an immense exponent costs nothing. -/
def toDouble (d : Decimal) : Double :=
  let length := decimalLength d.coefficient + d.exponent
  if d.coefficient = 0 then { Double.zero with negative := d.negative }
  else if 310 < length then Double.infinity d.negative
  else if length < -400 then { Double.zero with negative := d.negative }
  else if 0 ≤ d.exponent then
    Double.ofRatio d.negative (d.coefficient * Nat.pow 10 d.exponent.toNat) 1
  else
    Double.ofRatio d.negative d.coefficient (Nat.pow 10 (-d.exponent).toNat)

/-- The exponent part of a numeral: nothing, or `e` and a signed run of digits. -/
def exponent? : List Char → Option Int
  | [] => some 0
  | c :: rest => if c = 'e' || c = 'E' then integer? rest else none

/-- The decimal with these digits before and after the point, scaled by a power of ten. -/
def ofParts (negative : Bool) (whole fraction : List Char) (scale : Int) : Decimal :=
  ⟨negative, natOfDigits 10 (whole ++ fraction), scale - fraction.length⟩

/-- An unsigned numeral: digits with at most one point among them, at least one digit, and an
optional exponent. -/
def unsigned? (negative : Bool) (text : List Char) : Option Decimal :=
  let whole := text.takeWhile Char.isDigit
  let rest := text.dropWhile Char.isDigit
  let (fraction, rest) :=
    match rest with
    | '.' :: rest => (rest.takeWhile Char.isDigit, rest.dropWhile Char.isDigit)
    | _ => ([], rest)
  if whole.isEmpty && fraction.isEmpty then none
  else (exponent? rest).map (ofParts negative whole fraction)

/-- A numeral with an optional sign. -/
def ofChars? (text : List Char) : Option Decimal :=
  let (negative, rest) := takeSign text
  unsigned? negative rest

end Decimal

namespace Double

/-- The words for the doubles that no numeral denotes, in any case of letters. -/
def ofWord? (negative : Bool) (text : List Char) : Option Double :=
  match String.ofList (text.map Char.toLower) with
  | "inf" | "infinity" => some (infinity negative)
  | "nan" => some { nan with negative := negative }
  | _ => none

/-- Reads a numeral to the nearest double, or one of the words for the infinities and NaN. -/
def ofChars? (text : List Char) : Option Double :=
  let (negative, rest) := Numeral.takeSign text
  (ofWord? negative rest).or ((Decimal.unsigned? negative rest).map Decimal.toDouble)

end Double

end TwoWaySchema
