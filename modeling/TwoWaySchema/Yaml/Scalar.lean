import TwoWaySchema.Json.Transcript
import TwoWaySchema.Numeral

/-!
# YAML scalars

A scalar is a text.  One that was written without quotes may stand for null, a truth value or a
number instead.
-/

namespace TwoWaySchema.Yaml

structure Scalar where
  text : String
  /-- Written without quotes. -/
  isPlain : Bool
deriving DecidableEq, Repr

/-- Marks with a meaning of their own, with which no plain scalar begins. -/
def isIndicator (c : Char) : Bool :=
  [',', '[', ']', '{', '}', '#', '&', '*', '!', '|', '>', '\x27', '"', '%', '@', '\x60'].contains c

namespace Scalar

/-- More than one digit, the first of which is zero. -/
def isPadded : List Char → Bool
  | '0' :: c :: rest => (c :: rest).all Char.isDigit
  | _ => false

def digits? (base : Nat) (digits : List Char) : Option Nat :=
  if !digits.isEmpty && digits.all fun c ↦ Numeral.isHexDigit c && Numeral.digitValue c < base then
    some (Numeral.natOfDigits base digits)
  else none

/-- The digits of a whole number, after a mark unless they are decimal. -/
def magnitude? : List Char → Option Nat
  | '0' :: 'x' :: digits => digits? 16 digits
  | '0' :: 'o' :: digits => digits? 8 digits
  | '0' :: 'b' :: digits => digits? 2 digits
  | digits => if isPadded digits then none else digits? 10 digits

/-- A whole number that 128 bits hold. -/
def integer? (text : List Char) : Option Int :=
  let (negative, digits) := Numeral.takeSign text
  (magnitude? digits).bind fun n ↦
    let i := Numeral.withSign negative n
    if -(Nat.pow 2 127 : Nat) ≤ i && i < (Nat.pow 2 128 : Nat) then some i else none

def double? (text : List Char) : Option Double :=
  match String.ofList text with
  | ".inf" | ".Inf" | ".INF" | "+.inf" | "+.Inf" | "+.INF" => some (.infinity false)
  | "-.inf" | "-.Inf" | "-.INF" => some (.infinity true)
  | ".nan" | ".NaN" | ".NAN" => some .nan
  | _ =>
    if isPadded (Numeral.takeSign text).2 then none
    else
      (Decimal.ofChars? text).bind fun d ↦
        if d.toDouble.isFinite then some d.toDouble else none

/-- What a text without quotes stands for.  A whole number past 64 bits has no value as data, and a
double that is not finite is null there. -/
def plainTranscript (text : String) : Transcript :=
  match text with
  | "" | "~" | "null" | "Null" | "NULL" => .null
  | "true" | "True" | "TRUE" => .bool true
  | "false" | "False" | "FALSE" => .bool false
  | _ =>
    match integer? text.toList with
    | some i =>
      match Number.ofInt? i with
      | some n => if i = 0 && text.toList.head? = some '-' then .minusZero else .number n
      | none => .valueless .malformed .null
    | none =>
      match double? text.toList with
      | some x =>
        match Number.ofDouble? x with
        | some n => .number n
        | none => .null
      | none => .string text

def transcript (s : Scalar) : Transcript :=
  if s.isPlain then plainTranscript s.text else .string s.text

end Scalar

end TwoWaySchema.Yaml
