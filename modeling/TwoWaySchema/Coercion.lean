import TwoWaySchema.Failure
import TwoWaySchema.Json.Printer
import TwoWaySchema.Numeral
import TwoWaySchema.Text.Blank
import TwoWaySchema.Text.Quoted

/-!
# Coercion

Values of one kind that are understood as another: text as numbers, numbers as whole numbers,
anything as text or as a truth value.  Text is read as a decimal numeral first, and as a
hexadecimal one only if it is no decimal numeral at all.
-/

namespace TwoWaySchema.Coercion

def failure (text target : String) : Failure :=
  .single .coercionFailure ("cannot convert " ++ Text.quote text ++ " to " ++ target)

/-- A 64-bit integer, when the whole number is one. -/
def int64? (n : Int) : Option Int64 :=
  if -9223372036854775808 ≤ n ∧ n < 9223372036854775808 then some (.ofInt n) else none

/-- A hexadecimal numeral whose magnitude is a 64-bit integer. -/
def hexInt64? (text : List Char) : Option Int :=
  (Numeral.hexInteger? text).filter fun n ↦ n.natAbs < 9223372036854775808

/-- The finite double that a text denotes, blanks around it apart. -/
def textToDouble? (text : String) : Option Double :=
  let chars := Text.trim text.toList
  match Double.ofChars? chars with
  | some x => if x.isFinite then some x else none
  | none => (hexInt64? chars).map Double.ofInt

/-- The 64-bit integer that a text denotes, blanks around it apart: as a decimal integer, as a
decimal numeral whose double is whole and below `2 ^ 53`, or in hexadecimal digits. -/
def textToInt64? (text : String) : Option Int64 :=
  let chars := Text.trim text.toList
  match (Numeral.integer? chars).bind int64? with
  | some n => some n
  | none =>
    match Double.ofChars? chars with
    | some x => x.exactInt?.map Int64.ofInt
    | none => (hexInt64? chars).map Int64.ofInt

/-- The whole number that a number is; past the 64-bit integers none is taken for exact. -/
def numberToInt64? (n : Number) : Option Int64 :=
  (n.toInt64?).or (n.toDouble.exactInt?.map Int64.ofInt)

/-- Null, false, zero and the empty text are false, and all else is true. -/
def isTruthy : Json → Bool
  | .null => false
  | .bool b => b
  | .number n => !(n.toDouble == 0) && !n.toDouble.isNaN
  | .string s => !s.isEmpty
  | .array _ | .object _ => true

end TwoWaySchema.Coercion
