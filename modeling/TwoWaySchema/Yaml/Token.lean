import TwoWaySchema.Yaml.Scalar

/-!
# YAML tokens

A token is a mark or a scalar.  Brackets are marks of the text itself; where a block of entries at
one column begins and ends is said by tokens too, so that both styles nest alike.
-/

namespace TwoWaySchema.Yaml

inductive Token where
  | documentStart
  | documentEnd
  /-- A block sequence begins. -/
  | sequenceStart
  /-- A block mapping begins. -/
  | mappingStart
  /-- A block sequence or a block mapping ends. -/
  | blockEnd
  | openBracket
  | closeBracket
  | openBrace
  | closeBrace
  | comma
  /-- An item of a block sequence follows. -/
  | entry
  /-- A key follows, which may be written without a mark. -/
  | key
  /-- The value of a key follows. -/
  | value
  | scalar (s : Scalar)
deriving DecidableEq, Repr

end TwoWaySchema.Yaml
