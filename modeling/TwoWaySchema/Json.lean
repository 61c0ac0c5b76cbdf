import TwoWaySchema.Double
import TwoWaySchema.Sorted

/-!
# JSON values

Untyped data is a JSON value.  A number is either a whole number in the range that 64 bits hold,
signed or unsigned, or a finite double; `1` and `1.0` are different values.  An object lists its
members in ascending order of their keys, each key once, which `Json.WellFormed` states.
-/

namespace TwoWaySchema

inductive Number where
  /-- A whole number from `-2 ^ 63` up and below `2 ^ 64`. -/
  | whole (n : Int) (inRange : -9223372036854775808 ≤ n ∧ n < 18446744073709551616)
  | real (x : Double) (finite : x.isFinite = true)
deriving DecidableEq, Repr

namespace Number

/-- The whole number `n`, where a number can be one that large. -/
def ofInt? (n : Int) : Option Number :=
  if h : -9223372036854775808 ≤ n ∧ n < 18446744073709551616 then some (whole n h) else none

def ofDouble? (x : Double) : Option Number :=
  if h : x.isFinite = true then some (real x h) else none

def ofInt64 (n : Int64) : Number :=
  whole n.toInt ⟨Int64.le_toInt n, by have := Int64.toInt_lt n; omega⟩

/-- The number as a double, rounded when a whole number has more than 53 bits. -/
def toDouble : Number → Double
  | whole n _ => .ofInt n
  | real x _ => x

def toInt64? : Number → Option Int64
  | whole n _ => if n < 9223372036854775808 then some (.ofInt n) else none
  | real _ _ => none

/-- Whole numbers equal whole numbers and doubles equal doubles numerically; no whole number
equals a double. -/
instance : BEq Number where
  beq
    | whole a _, whole b _ => a == b
    | real x _, real y _ => x == y
    | _, _ => false

end Number

inductive Json where
  | null
  | bool (b : Bool)
  | number (n : Number)
  | string (s : String)
  | array (items : List Json)
  | object (members : List (String × Json))
deriving Repr, Inhabited

namespace Json

mutual

def equal : Json → Json → Bool
  | null, null => true
  | bool a, bool b => a == b
  | number a, number b => a == b
  | string a, string b => a == b
  | array xs, array ys => equalItems xs ys
  | object xs, object ys => equalMembers xs ys
  | _, _ => false

def equalItems : List Json → List Json → Bool
  | [], [] => true
  | x :: xs, y :: ys => equal x y && equalItems xs ys
  | _, _ => false

def equalMembers : List (String × Json) → List (String × Json) → Bool
  | [], [] => true
  | (a, x) :: xs, (b, y) :: ys => a == b && equal x y && equalMembers xs ys
  | _, _ => false

end

instance : BEq Json := ⟨equal⟩

mutual

/-- Every object in the value lists its members in ascending order of their keys. -/
def WellFormed : Json → Prop
  | array items => WellFormedItems items
  | object members => IsAscending (members.map Prod.fst) ∧ WellFormedMembers members
  | _ => True

def WellFormedItems : List Json → Prop
  | [] => True
  | x :: xs => WellFormed x ∧ WellFormedItems xs

def WellFormedMembers : List (String × Json) → Prop
  | [] => True
  | (_, x) :: xs => WellFormed x ∧ WellFormedMembers xs

end

/-- The name of a value's kind in error messages. -/
def kindName : Json → String
  | null => "null"
  | bool _ => "boolean"
  | number _ => "number"
  | string _ => "string"
  | array _ => "array"
  | object _ => "object"

def isNull : Json → Bool
  | null => true
  | _ => false

def toBool? : Json → Option Bool
  | bool b => some b
  | _ => none

def toDouble? : Json → Option Double
  | number n => some n.toDouble
  | _ => none

def toInt64? : Json → Option Int64
  | number n => n.toInt64?
  | _ => none

def toText? : Json → Option String
  | string s => some s
  | _ => none

def toItems? : Json → Option (List Json)
  | array items => some items
  | _ => none

def toMembers? : Json → Option (List (String × Json))
  | object members => some members
  | _ => none

/-- The object with these members; of members with the same key the last is kept. -/
def ofMembers (members : List (String × Json)) : Json :=
  object (SortedMap.ofList members).entries

end Json

/-- The JSON form of a double: a whole number where it is one below `2 ^ 53` in magnitude, no
value for the infinities and NaN. -/
def jsonNumber? (x : Double) : Option Number :=
  if x.exactInt?.isSome then some (Number.ofInt64 x.toInt64) else Number.ofDouble? x

end TwoWaySchema
