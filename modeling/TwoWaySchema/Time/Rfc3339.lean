import TwoWaySchema.Numeral
import TwoWaySchema.Time.Timestamp

/-!
# RFC 3339 timestamps

The reader takes `2024-02-29T12:30:45.5+01:00`: a date, one of `T`, `t` and a space, a time with an
optional fraction, and `Z`, `z` or an offset.  Second 60 is the leap second after second 59.  The
writer always gives universal time, milliseconds and `Z`; outside the years 0 to 9999 it writes a
sign before the year, which the reader does not take.
-/

namespace TwoWaySchema.Rfc3339

inductive Fault where
  | tooShort
  | invalid
  | outOfRange
  | tooLong
deriving DecidableEq, Repr

def Fault.message : Fault → String
  | tooShort => "premature end of input"
  | invalid => "input contains invalid characters"
  | outOfRange => "input is out of range"
  | tooLong => "trailing input"

/-! ## Reading -/

/-- Reads exactly `count` decimal digits. -/
def readDigits : (count : Nat) → (read : Nat) → List Char → Except Fault (Nat × List Char)
  | 0, read, text => .ok (read, text)
  | count + 1, read, c :: text =>
    if c.isDigit then readDigits count (10 * read + Numeral.digitValue c) text else .error .invalid
  | _ + 1, _, [] => .error .tooShort

def readMark (isMark : Char → Bool) : List Char → Except Fault (List Char)
  | c :: text => if isMark c then .ok text else .error .invalid
  | [] => .error .tooShort

def readDate (text : List Char) : Except Fault (Date × List Char) := do
  let (year, text) ← readDigits 4 0 text
  let text ← readMark (· = '-') text
  let (month, text) ← readDigits 2 0 text
  let text ← readMark (· = '-') text
  let (day, text) ← readDigits 2 0 text
  let date : Date := ⟨year, month, day⟩
  if date.IsValid then .ok (date, text) else .error .outOfRange

/-- The nanoseconds that the digits of a fraction write; digits after the ninth have no effect. -/
def nanosOfFraction (digits : List Char) : Nat :=
  let kept := digits.take 9
  Numeral.natOfDigits 10 kept * Nat.pow 10 (9 - kept.length)

def readFraction : List Char → Except Fault (Nat × List Char)
  | '.' :: text =>
    let digits := text.takeWhile Char.isDigit
    let rest := text.dropWhile Char.isDigit
    if digits.isEmpty then .error (if rest.isEmpty then .tooShort else .invalid)
    else .ok (nanosOfFraction digits, rest)
  | text => .ok (0, text)

/-- Reads a time of day as its whole seconds, and the nanoseconds after them. -/
def readTime (text : List Char) : Except Fault (Nat × Nat × List Char) := do
  let (hour, text) ← readDigits 2 0 text
  let text ← readMark (· = ':') text
  let (minute, text) ← readDigits 2 0 text
  let text ← readMark (· = ':') text
  let (second, text) ← readDigits 2 0 text
  let (nanos, text) ← readFraction text
  let (second, nanos) := if second = 60 then (59, nanos + 1000000000) else (second, nanos)
  if hour < 24 && minute < 60 && second < 60 then
    .ok (hour * 3600 + minute * 60 + second, nanos, text)
  else .error .outOfRange

/-- Reads the two digits of an offset's hours or minutes. -/
def readOffsetPart : List Char → Except Fault (Nat × List Char)
  | a :: b :: text =>
    if a.isDigit && b.isDigit then .ok (Numeral.natOfDigits 10 [a, b], text) else .error .invalid
  | [c] => .error (if c.toNat < 0x80 then .tooShort else .invalid)
  | [] => .error .tooShort

/-- Reads an offset from universal time in seconds; a true minus sign may stand for `-`. -/
def readOffset : List Char → Except Fault (Int × List Char)
  | [] => .error .tooShort
  | 'Z' :: text | 'z' :: text => .ok (0, text)
  | c :: text =>
    if c = '+' || c = '-' || c = '\u2212' then do
      let (hours, text) ← readOffsetPart text
      let text ← readMark (· = ':') text
      let (minutes, text) ← readOffsetPart text
      if minutes < 60 then
        .ok (Numeral.withSign (c ≠ '+') (hours * 3600 + minutes * 60), text)
      else .error .outOfRange
    else .error .invalid

/-- The length in bytes of the shortest text with a date and a time. -/
def leastLength : Nat := 19

def ofText? (text : String) : Except Fault Timestamp := do
  if text.utf8ByteSize < leastLength then .error .tooShort
  else
    let (date, text) ← readDate text.toList
    let text ← readMark (fun c ↦ c = 'T' || c = 't' || c = ' ') text
    let (secondOfDay, nanos, text) ← readTime text
    let (offset, text) ← readOffset text
    if !text.isEmpty then .error .tooLong
    else if offset.natAbs < 86400 then
      let day := date.dayNumber - Date.epochDay
      match Timestamp.ofParts? (day * Timestamp.secondsPerDay + secondOfDay - offset) nanos with
      | some t => .ok t
      | none => .error .outOfRange
    else .error .outOfRange

/-! ## Writing -/

/-- Decimal digits, at least `width` of them. -/
def padded (width n : Nat) : String :=
  let digits := Nat.toDigits 10 n
  String.ofList (List.replicate (width - digits.length) '0' ++ digits)

/-- Four digits, after a sign unless the year is one of those from 0 to 9999. -/
def yearText (year : Int) : String :=
  if 0 ≤ year && year ≤ 9999 then padded 4 year.toNat
  else (if year < 0 then "-" else "+") ++ padded 4 year.natAbs

/-- The text in universal time with three digits of fraction. -/
def text (t : Timestamp) : String :=
  let day := t.seconds / Timestamp.secondsPerDay
  let second := (t.seconds % Timestamp.secondsPerDay).toNat
  let date := Date.ofDayNumber (day + Date.epochDay)
  let (secondOfMinute, nanos) :=
    if t.nanos < 1000000000 then (second % 60, t.nanos)
    else (second % 60 + 1, t.nanos - 1000000000)
  yearText date.year ++ "-" ++ padded 2 date.month ++ "-" ++ padded 2 date.day ++ "T"
    ++ padded 2 (second / 3600) ++ ":" ++ padded 2 (second / 60 % 60) ++ ":"
    ++ padded 2 secondOfMinute ++ "." ++ padded 3 (nanos / 1000000) ++ "Z"

end TwoWaySchema.Rfc3339
