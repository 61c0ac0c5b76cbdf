import TwoWaySchema.Json.Transcript
import TwoWaySchema.Numeral

/-!
# Reading JSON text

The reader turns a text into a transcript and stops at the first fault that nobody can pass over.
How deep a text nests is no matter here; its length bounds the recursion.
-/

namespace TwoWaySchema.Transcript

/-- What was read, and the text that follows it; no text follows a fault. -/
abbrev Reading (α : Type) : Type :=
  α × Option (List Char)

def isBlank (c : Char) : Bool :=
  c = ' ' || c = '\n' || c = '\t' || c = '\r'

def skipBlanks (text : List Char) : List Char :=
  text.dropWhile isBlank

/-- The fault of a text that goes on with something unexpected, or does not go on at all. -/
def faultAt (text : List Char) : Fault :=
  if text.isEmpty then .truncated else .malformed

/-- The transcript of a numeral that lacks digits where the text goes on like this.  Those who pass
over a numeral do not tell an early end from other characters. -/
def unfinishedNumeral (text : List Char) : Transcript :=
  valueless (faultAt text) (fault .malformed)

/-! ## Scalars -/

/-- Reads the rest of one of the three words. -/
def readWord (result : Transcript) : (word : List Char) → List Char → Reading Transcript
  | [], text => (result, some text)
  | c :: word, d :: text => if c = d then readWord result word text else (.fault .malformed, none)
  | _ :: _, [] => (.fault .truncated, none)

/-- The transcript of a whole numeral: beyond 64 bits, and for `-0`, it is a double. -/
def ofWhole (negative : Bool) (magnitude : Nat) : Transcript :=
  let asDouble :=
    match Number.ofDouble? (Double.ofRatio negative magnitude 1) with
    | some n => number n
    | none => valueless .malformed null
  if negative && magnitude = 0 then asDouble
  else
    match Number.ofInt? (Numeral.withSign negative magnitude) with
    | some n => number n
    | none => asDouble

def ofDecimal (d : Decimal) : Transcript :=
  match Number.ofDouble? d.toDouble with
  | some n => number n
  | none => valueless .malformed null

/-- Reads an exponent after its letter, when the digits before it are already known. -/
def readExponent (negative : Bool) (whole fraction : List Char) (text : List Char) :
    Reading Transcript :=
  let (exponentNegative, text) := Numeral.takeSign text
  let digits := text.takeWhile Char.isDigit
  let rest := text.dropWhile Char.isDigit
  if digits.isEmpty then (unfinishedNumeral rest, none)
  else
    let exponent := Numeral.withSign exponentNegative (Numeral.natOfDigits 10 digits)
    (ofDecimal (.ofParts negative whole fraction exponent), some rest)

/-- Reads what follows the digits before the point. -/
def readFraction (negative : Bool) (whole : List Char) (text : List Char) : Reading Transcript :=
  match text with
  | '.' :: text =>
    let fraction := text.takeWhile Char.isDigit
    let rest := text.dropWhile Char.isDigit
    if fraction.isEmpty then (unfinishedNumeral rest, none)
    else
      match rest with
      | 'e' :: rest | 'E' :: rest => readExponent negative whole fraction rest
      | _ => (ofDecimal (.ofParts negative whole fraction 0), some rest)
  | 'e' :: text | 'E' :: text => readExponent negative whole [] text
  | _ => (ofWhole negative (Numeral.natOfDigits 10 whole), some text)

/-- Reads a numeral after its sign: no leading zero, digits on both sides of a point. -/
def readNumeral (negative : Bool) (text : List Char) : Reading Transcript :=
  let whole := text.takeWhile Char.isDigit
  let rest := text.dropWhile Char.isDigit
  match whole with
  | [] => (unfinishedNumeral rest, none)
  | '0' :: _ :: _ => (.fault .malformed, none)
  | _ => readFraction negative whole rest

/-- The character that a backslash and this letter stand for. -/
def escapedChar? : Char → Option Char
  | '"' => some '"'
  | '\\' => some '\\'
  | '/' => some '/'
  | 'b' => some '\x08'
  | 'f' => some '\x0c'
  | 'n' => some '\n'
  | 'r' => some '\r'
  | 't' => some '\t'
  | _ => none

/-- Reads a string after its opening quote, as the codes of its characters up to the closing quote
or a fault; an escape may give either half of a surrogate pair.  Four bytes after `u` that are no
digits are malformed even where they are fewer characters.  `read` holds the codes so far, the last
first. -/
def readCodes (read : List Nat) : List Char → (List Nat × Option Fault) × Option (List Char)
  | [] => ((read.reverse, some .truncated), none)
  | '"' :: rest => ((read.reverse, none), some rest)
  | '\\' :: 'u' :: a :: b :: c :: d :: rest =>
    if [a, b, c, d].all Numeral.isHexDigit then
      readCodes (Numeral.natOfDigits 16 [a, b, c, d] :: read) rest
    else ((read.reverse, some .malformed), none)
  | '\\' :: 'u' :: rest =>
    let isShort := (String.ofList rest).utf8ByteSize < 4
    ((read.reverse, some (if isShort then .truncated else .malformed)), none)
  | '\\' :: c :: rest =>
    match escapedChar? c with
    | some c => readCodes (c.toNat :: read) rest
    | none => ((read.reverse, some .malformed), none)
  | '\\' :: [] => ((read.reverse, some .truncated), none)
  | c :: rest =>
    if c.toNat < 0x20 then ((read.reverse, some .malformed), none)
    else readCodes (c.toNat :: read) rest

def isHighSurrogate (code : Nat) : Bool :=
  0xD800 ≤ code && code < 0xDC00

def isLowSurrogate (code : Nat) : Bool :=
  0xDC00 ≤ code && code < 0xE000

/-- The characters that codes stand for, where a high and a low surrogate make one character.  Half
a pair is malformed where it stands; a high half at the end could still become a pair if the text
went on. -/
def charsOfCodes (ending : Option Fault) : List Nat → Except Fault (List Char)
  | [] =>
    match ending with
    | some f => .error f
    | none => .ok []
  | [code] =>
    if isHighSurrogate code then .error (ending.getD .malformed)
    else if isLowSurrogate code then .error .malformed
    else
      match ending with
      | some f => .error f
      | none => .ok [.ofNat code]
  | code :: low :: rest =>
    if isHighSurrogate code && isLowSurrogate low then
      let code := 0x10000 + (code - 0xD800) * 0x400 + (low - 0xDC00)
      (charsOfCodes ending rest).map (.ofNat code :: ·)
    else if isHighSurrogate code || isLowSurrogate code then .error .malformed
    else (charsOfCodes ending (low :: rest)).map (.ofNat code :: ·)

/-- A string as it was read: its value or the fault that those who need the value meet, and the
fault that stands in the place of its closing quote. -/
structure Codes where
  value : Except Fault String
  ending : Option Fault

/-- Reads a string after its opening quote. -/
def readString (text : List Char) : Reading Codes :=
  let ((codes, ending), rest) := readCodes [] text
  (⟨(charsOfCodes ending codes).map String.ofList, ending⟩, rest)

def ofCodes (codes : Codes) : Transcript :=
  let seen := (codes.ending.map fault).getD null
  match codes.value with
  | .ok s => string s
  | .error f => if codes.ending = some f then fault f else valueless f seen

/-- Reads a scalar at the first character of it. -/
def readScalar : List Char → Reading Transcript
  | [] => (.fault .truncated, none)
  | 'n' :: text => readWord null ['u', 'l', 'l'] text
  | 't' :: text => readWord (bool true) ['r', 'u', 'e'] text
  | 'f' :: text => readWord (bool false) ['a', 'l', 's', 'e'] text
  | '"' :: text =>
    let (codes, rest) := readString text
    (ofCodes codes, rest)
  | '-' :: text => readNumeral true text
  | c :: text => if c.isDigit then readNumeral false (c :: text) else (.fault .malformed, none)

/-! ## Arrays and objects -/

/-- Reads items up to the closing bracket, from the first character of an item. -/
def readItems (readItem : List Char → Reading Transcript) :
    (fuel : Nat) → List Char → Reading (List Transcript × Option Fault)
  | 0, _ => (([], some .truncated), none)
  | fuel + 1, text =>
    match readItem text with
    | (item, none) => (([item], none), none)
    | (item, some rest) =>
      match skipBlanks rest with
      | ']' :: rest => (([item], none), some rest)
      | ',' :: rest =>
        match skipBlanks rest with
        | ']' :: _ => (([item], some .malformed), none)
        | rest =>
          let ((items, ending), rest) := readItems readItem fuel rest
          ((item :: items, ending), rest)
      | rest => (([item], some (faultAt rest)), none)

/-- Reads members up to the closing brace, from the quote that opens a key. -/
def readMembers (readItem : List Char → Reading Transcript) :
    (fuel : Nat) → List Char → Reading (List (Key × Transcript) × Option Fault)
  | 0, _ => (([], some .truncated), none)
  | fuel + 1, '"' :: text =>
    let (codes, rest) := readString text
    let key : Key :=
      match codes.value with
      | .ok s => .text s
      | .error f => .valueless f
    match rest with
    | none => (([(key, ofCodes codes)], none), none)
    | some rest =>
      match skipBlanks rest with
      | ':' :: rest =>
        match readItem (skipBlanks rest) with
        | (item, none) => (([(key, item)], none), none)
        | (item, some rest) =>
          match skipBlanks rest with
          | '}' :: rest => (([(key, item)], none), some rest)
          | ',' :: rest =>
            let ((members, ending), rest) := readMembers readItem fuel (skipBlanks rest)
            (((key, item) :: members, ending), rest)
          | rest => (([(key, item)], some (faultAt rest)), none)
      | rest => (([(key, .fault (faultAt rest))], none), none)
  | _ + 1, text => (([], some (faultAt text)), none)

/-- Reads a value at its first character; `fuel` is more than the length of the text. -/
def readValue : (fuel : Nat) → List Char → Reading Transcript
  | 0, _ => (.fault .truncated, none)
  | fuel + 1, text =>
    match text with
    | '[' :: text =>
      match skipBlanks text with
      | [] => (array [] (some .truncated), none)
      | ']' :: rest => (array [] none, some rest)
      | text =>
        let ((items, ending), rest) :=
          readItems (fun item ↦ readValue fuel (skipBlanks item)) fuel text
        (array items ending, rest)
    | '{' :: text =>
      match skipBlanks text with
      | '}' :: rest => (object [] none, some rest)
      | text =>
        let ((members, ending), rest) :=
          readMembers (fun item ↦ readValue fuel item) (fuel + 1) text
        (object members ending, rest)
    | _ => readScalar text

/-- The transcript of a text, and the fault of what follows it.  Nothing but blanks may follow. -/
def ofText (text : String) : Transcript × Option Fault :=
  let text := skipBlanks text.toList
  match readValue (text.length + 1) text with
  | (d, none) => (d, none)
  | (d, some rest) => (d, if (skipBlanks rest).isEmpty then none else some .malformed)

end TwoWaySchema.Transcript

namespace TwoWaySchema.Json

/-- The value of a JSON text, or the first fault of the text. -/
def ofText? (text : String) : Except Fault Json :=
  let (transcript, trailing) := Transcript.ofText text
  match (transcript.firstFault? Transcript.nestingLimit).or trailing, transcript.value? with
  | none, some x => .ok x
  | some f, _ => .error f
  | none, none => .error .malformed

end TwoWaySchema.Json
