import TwoWaySchema.Double.Text
import TwoWaySchema.Text.Quoted

/-!
# Errors of writing

A typed value may have no untyped form.  `SerializeError.isMismatch` tells a value that belongs to
another schema, for which a union goes on to its next alternative, from one that no schema writes.
-/

namespace TwoWaySchema

inductive SerializeError where
  /-- The value is not one that the described schema writes. -/
  | mismatch (expected : String)
  /-- The infinities and NaN have no JSON form. -/
  | nonFinite (x : Double)
  | field (name : String) (source : SerializeError)
  | key (name : String) (source : SerializeError)
  | index (i : Nat) (source : SerializeError)
  /-- No alternative of the described union writes the value. -/
  | noMatchingBranch (expected : String)
deriving DecidableEq, Repr

namespace SerializeError

def message : SerializeError → String
  | mismatch expected => "value does not match " ++ expected
  | nonFinite x => "number " ++ x.plainText ++ " cannot be represented as JSON"
  | field name source => "field " ++ name ++ ": " ++ source.message
  | .key name source => "key " ++ Text.quote name ++ ": " ++ source.message
  | index i source => "index " ++ toString i ++ ": " ++ source.message
  | noMatchingBranch expected => "no alternative of " ++ expected ++ " accepts the value"

/-- Whether the value, or the part of it that could not be written, is of another shape. -/
def isMismatch : SerializeError → Bool
  | mismatch _ | noMatchingBranch _ => true
  | nonFinite _ => false
  | .field _ source | .key _ source | .index _ source => source.isMismatch

end SerializeError

end TwoWaySchema
