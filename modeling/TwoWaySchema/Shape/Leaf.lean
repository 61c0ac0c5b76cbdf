import TwoWaySchema.Coercion
import TwoWaySchema.Regex.Engine
import TwoWaySchema.SerializeError
import TwoWaySchema.Time.Rfc3339

/-!
# Reading and writing scalars

The leaves of all shapes: how text, numbers, truth values, timestamps and regular expressions are
read from present data and written.  Strict readers take their own kind only; the others convert
what they can.
-/

namespace TwoWaySchema.Leaf

/-! ## Text, numbers and truth values -/

def readString (coerces : Bool) (input : Option Json) : Outcome String := do
  let x ← requirePresent input
  match x, coerces with
  | .string s, _ => .ok s
  | .number n, true => .ok n.text
  | .bool b, true => .ok (if b then "true" else "false")
  | .array _, true | .object _, true => .ok x.text
  | _, _ => .error (.typeMismatch "string" x)

def readNumber (coerces : Bool) (input : Option Json) : Outcome Double := do
  let x ← requirePresent input
  match x, coerces with
  | .number n, _ => .ok n.toDouble
  | .string s, true =>
    match Coercion.textToDouble? s with
    | some number => .ok number
    | none => .error (Coercion.failure s "number")
  | _, _ => .error (.typeMismatch "number" x)

def writeNumber (x : Double) : Except SerializeError Json :=
  match jsonNumber? x with
  | some n => .ok (.number n)
  | none => .error (.nonFinite x)

def readInteger (coerces : Bool) (input : Option Json) : Outcome Int64 := do
  let x ← requirePresent input
  match x, coerces with
  | .number n, false =>
    match n.toInt64? with
    | some i => .ok i
    | none => .error (.typeMismatch "integer" x)
  | .number n, true =>
    match Coercion.numberToInt64? n with
    | some i => .ok i
    | none => .error (Coercion.failure n.text "integer")
  | .string s, true =>
    match Coercion.textToInt64? s with
    | some i => .ok i
    | none => .error (Coercion.failure s "integer")
  | _, _ => .error (.typeMismatch "integer" x)

def writeInteger (i : Int64) : Json :=
  .number (.ofInt64 i)

/-- A coercing reader takes null for false, so for it only an absent value is missing. -/
def readBoolean (coerces : Bool) (input : Option Json) : Outcome Bool :=
  if coerces then
    match input with
    | none => .error .missing
    | some x => .ok (Coercion.isTruthy x)
  else do
    match ← requirePresent input with
    | .bool b => .ok b
    | x => .error (.typeMismatch "boolean" x)

/-! ## Timestamps -/

/-- Reads milliseconds since the epoch; a fraction of one is cut off. -/
def readMillis (n : Number) : Outcome Timestamp :=
  let millis :=
    match n with
    | .whole n _ => n
    | .real x _ => x.truncate
  match Timestamp.ofMillis? millis with
  | some t => .ok t
  | none => .error (.single .coercionFailure ("timestamp " ++ n.text ++ " is out of range"))

def readDatetime (input : Option Json) : Outcome Timestamp := do
  match ← requirePresent input with
  | .number n => readMillis n
  | .string s =>
    match Rfc3339.ofText? s with
    | .ok t => .ok t
    | .error f =>
      .error (.single .coercionFailure
        ("invalid RFC 3339 timestamp " ++ Text.quote s ++ ": " ++ f.message))
  | x => .error (.typeMismatch "timestamp" x)

/-- The milliseconds of a timestamp. -/
def writeDatetime (t : Timestamp) : Json :=
  .number (.whole t.millis t.millis_inRange)

/-! ## Regular expressions -/

section Regex

variable {ρ : Type} (engine : Regex.Engine ρ)

/-- The regular expression of a source with flags. -/
def readPattern (source flags : String) : Outcome ρ :=
  match Regex.inlineFlags [] flags.toList with
  | .error c =>
    .error (.single .coercionFailure ("unsupported regex flag " ++ Text.quoteChar c))
  | .ok inlined =>
    match engine.compile (Regex.joinFlags inlined source) with
    | .ok r => .ok r
    | .error message =>
      .error (.single .coercionFailure
        ("invalid regex " ++ Text.quote source ++ ": " ++ message))

/-- Reads the source of a regular expression from its member. -/
def readSource : Option Json → Outcome String
  | some (.string source) => .ok source
  | some x => .error ((Failure.typeMismatch "string" x).within (.key "source"))
  | none => .error (Failure.missing.within (.key "source"))

/-- Reads the flags from their member; absent or null flags are none. -/
def readFlags : Option Json → Outcome String
  | none | some .null => .ok ""
  | some (.string flags) => .ok flags
  | some x =>
    .error ((Failure.shapeMismatch ("expected string flags, found " ++ x.kindName)).within
      (.key "flags"))

def readRegex (input : Option Json) : Outcome ρ := do
  match ← requirePresent input with
  | .object members =>
    let source ← readSource (members.lookup "source")
    let flags ← readFlags (members.lookup "flags")
    readPattern engine source flags
  | x => .error (.typeMismatch "regex" x)

def writeRegex (r : ρ) : Json :=
  let (flags, source) := Regex.splitFlags (engine.pattern r)
  .ofMembers [("source", .string source), ("flags", .string flags)]

end Regex

end TwoWaySchema.Leaf
