import TwoWaySchema.Json

/-!
# Transcripts

A transcript is what a text says, member by member and in the order of the text: repeated keys are
still there.  Where the text stops making sense the transcript holds a `Fault` at that very place,
so whoever walks it in reading order meets the first problem first, be it a fault of the text or
data of the wrong form.  Some scalars are sound as text but have no value; they trouble those who
need the value and not those who pass over it.
-/

namespace TwoWaySchema

inductive Fault where
  /-- The text breaks the grammar. -/
  | malformed
  /-- The text ends too early. -/
  | truncated
deriving DecidableEq, Repr

namespace Transcript

/-- What a member stands under.  In JSON that is a string, with a value or without; other texts
have keys of other kinds, and among them whole numbers can count the parts of something. -/
inductive Key where
  | text (s : String)
  | index (n : Nat)
  /-- A truth value, null or a number that counts nothing. -/
  | scalar
  /-- An array or an object of this many levels. -/
  | collection (levels : Nat)
  /-- A string without a value. -/
  | valueless (fault : Fault)
deriving DecidableEq, Repr

end Transcript

inductive Transcript where
  | null
  | bool (b : Bool)
  | number (n : Number)
  /-- Zero with a minus sign, which is zero as a value and counts nothing. -/
  | minusZero
  | string (s : String)
  /-- The items in order, and the fault that stands in the place of the closing bracket. -/
  | array (items : List Transcript) (ending : Option Fault)
  | object (members : List (Transcript.Key × Transcript)) (ending : Option Fault)
  /-- A scalar without a value: those who need it meet the fault, the others what is `seen`. -/
  | valueless (fault : Fault) (seen : Transcript)
  | fault (f : Fault)
deriving Repr, Inhabited

namespace Transcript

/-- How deep the arrays and objects of a value may nest. -/
def nestingLimit : Nat := 127

/-- The fault of a key for those who need it, when it may nest this deep. -/
def Key.fault? (depth : Nat) : Key → Option Fault
  | valueless f => some f
  | collection levels => if levels ≤ depth then none else some .malformed
  | text _ | index _ | scalar => none

mutual

/-- The first fault in reading order for those who need the value, when it may nest this deep; a
level more is a fault at the bracket that opens it. -/
def firstFault? (depth : Nat) : Transcript → Option Fault
  | fault f | valueless f _ => some f
  | array items ending =>
    match depth with
    | 0 => some .malformed
    | depth + 1 => (faultOfItems? depth items).or ending
  | object members ending =>
    match depth with
    | 0 => some .malformed
    | depth + 1 => (faultOfMembers? depth members).or ending
  | null | bool _ | number _ | minusZero | string _ => none

def faultOfItems? (depth : Nat) : List Transcript → Option Fault
  | [] => none
  | item :: rest => (firstFault? depth item).or (faultOfItems? depth rest)

def faultOfMembers? (depth : Nat) : List (Key × Transcript) → Option Fault
  | [] => none
  | (key, item) :: rest =>
    ((key.fault? depth).or (firstFault? depth item)).or (faultOfMembers? depth rest)

end

mutual

/-- How deep the arrays and objects of a transcript nest. -/
def levels : Transcript → Nat
  | array items _ => levelsOfItems items + 1
  | object members _ => levelsOfMembers members + 1
  | valueless _ _ | fault _ | null | bool _ | number _ | minusZero | string _ => 0

def levelsOfItems : List Transcript → Nat
  | [] => 0
  | item :: rest => max (levels item) (levelsOfItems rest)

def levelsOfMembers : List (Key × Transcript) → Nat
  | [] => 0
  | (.collection n, item) :: rest => max (max n (levels item)) (levelsOfMembers rest)
  | (_, item) :: rest => max (levels item) (levelsOfMembers rest)

end

/-- The key that a transcript makes. -/
def toKey (t : Transcript) : Key :=
  match t.firstFault? t.levels, t with
  | some f, _ => .valueless f
  | none, string s => .text s
  | none, number (.whole n _) => if 0 ≤ n then .index n.toNat else .scalar
  | none, array _ _ | none, object _ _ => .collection t.levels
  | none, _ => .scalar

mutual

/-- The first fault in reading order for those who pass over the value. -/
def passingFault? : Transcript → Option Fault
  | fault f => some f
  | valueless _ seen => passingFault? seen
  | array items ending => (passingFaultOfItems? items).or ending
  | object members ending => (passingFaultOfMembers? members).or ending
  | null | bool _ | number _ | minusZero | string _ => none

def passingFaultOfItems? : List Transcript → Option Fault
  | [] => none
  | item :: rest => (passingFault? item).or (passingFaultOfItems? rest)

def passingFaultOfMembers? : List (Key × Transcript) → Option Fault
  | [] => none
  | (_, item) :: rest => (passingFault? item).or (passingFaultOfMembers? rest)

end

mutual

/-- The JSON value of a transcript, which has strings for keys; the last of several members with
one key counts. -/
def value? : Transcript → Option Json
  | null => some .null
  | bool b => some (.bool b)
  | number n => some (.number n)
  | minusZero => some (.number (.ofInt64 0))
  | string s => some (.string s)
  | array items _ => (valueOfItems? items).map .array
  | object members _ => (valueOfMembers? members).map .ofMembers
  | valueless _ _ | fault _ => none

def valueOfItems? : List Transcript → Option (List Json)
  | [] => some []
  | item :: rest => do return (← value? item) :: (← valueOfItems? rest)

def valueOfMembers? : List (Key × Transcript) → Option (List (String × Json))
  | [] => some []
  | (.text key, item) :: rest => do return (key, ← value? item) :: (← valueOfMembers? rest)
  | _ :: _ => none

end

end Transcript

end TwoWaySchema
