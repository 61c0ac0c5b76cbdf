import TwoWaySchema.Json

/-!
# JSON documents

A document is a value in the form in which it is written: the members of an object stand in an
order of their own, and a key may be there more than once.
-/

namespace TwoWaySchema

inductive Document where
  | null
  | bool (b : Bool)
  | number (n : Number)
  | string (s : String)
  | array (items : List Document)
  | object (members : List (String × Document))
deriving Repr, Inhabited

namespace Document

mutual

/-- The document that writes a value. -/
def ofValue : Json → Document
  | .null => null
  | .bool b => bool b
  | .number n => number n
  | .string s => string s
  | .array items => array (ofValues items)
  | .object members => object (ofMembers members)

def ofValues : List Json → List Document
  | [] => []
  | x :: rest => ofValue x :: ofValues rest

def ofMembers : List (String × Json) → List (String × Document)
  | [] => []
  | (key, x) :: rest => (key, ofValue x) :: ofMembers rest

end

end Document

end TwoWaySchema
