import TwoWaySchema.Json

/-!
# Descriptors

A descriptor is a schema in the form in which a catalog stores it: data all the way down.  It can
name another schema of the catalog, and what it describes are JSON values.
-/

namespace TwoWaySchema

inductive Descriptor where
  | string (coerces : Bool) (pattern : Option String)
  | number (coerces : Bool)
  | integer (coerces : Bool)
  | boolean (coerces : Bool)
  | datetime
  | array (items : Descriptor)
  /-- An array whose repeated elements are dropped. -/
  | set (items : Descriptor)
  | tuple (items : List Descriptor)
  | object (fields : List (String × Descriptor)) (denyUnknown : Bool)
  | indexed (values : Descriptor)
  | optional (inner : Descriptor)
  | nullable (inner : Descriptor)
  /-- The value stands in for every failure of the inner schema. -/
  | orDefault (inner : Descriptor) (value : Json)
  | union (alternatives : List Descriptor)
  | reference (name : String)
deriving Repr, Inhabited

namespace Descriptor

mutual

/-- Structural equality, in which default values are compared as JSON values. -/
def equal : Descriptor → Descriptor → Bool
  | string a p, string b q => a == b && p == q
  | number a, number b => a == b
  | integer a, integer b => a == b
  | boolean a, boolean b => a == b
  | datetime, datetime => true
  | array a, array b => equal a b
  | set a, set b => equal a b
  | tuple as, tuple bs => equalItems as bs
  | object as a, object bs b => equalFields as bs && a == b
  | indexed a, indexed b => equal a b
  | optional a, optional b => equal a b
  | nullable a, nullable b => equal a b
  | orDefault a x, orDefault b y => equal a b && x == y
  | union as, union bs => equalItems as bs
  | reference a, reference b => a == b
  | _, _ => false

def equalItems : List Descriptor → List Descriptor → Bool
  | [], [] => true
  | a :: as, b :: bs => equal a b && equalItems as bs
  | _, _ => false

def equalFields : List (String × Descriptor) → List (String × Descriptor) → Bool
  | [], [] => true
  | (name, a) :: as, (other, b) :: bs => name == other && equal a b && equalFields as bs
  | _, _ => false

end

instance : BEq Descriptor := ⟨equal⟩

mutual

/-- The names that a descriptor refers to, from left to right. -/
def references : Descriptor → List String
  | array a | set a | indexed a | optional a | nullable a | orDefault a _ => references a
  | tuple as | union as => referencesOfItems as
  | object fields _ => referencesOfFields fields
  | reference name => [name]
  | string _ _ | number _ | integer _ | boolean _ | datetime => []

def referencesOfItems : List Descriptor → List String
  | [] => []
  | a :: rest => references a ++ referencesOfItems rest

def referencesOfFields : List (String × Descriptor) → List String
  | [] => []
  | (_, a) :: rest => references a ++ referencesOfFields rest

end

end Descriptor

end TwoWaySchema
