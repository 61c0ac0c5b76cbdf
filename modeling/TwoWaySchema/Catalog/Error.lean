import TwoWaySchema.Schema

/-!
# Errors of catalogs

Why a catalog cannot be compiled, and why a compiled one has no answer.
-/

namespace TwoWaySchema

/-- What is wrong with one descriptor. -/
inductive DescriptorFault where
  /-- The pattern is no regular expression, for what the engine has against it. -/
  | pattern (message : String)
  | emptyTuple
  | emptyUnion
  | fields (error : BuildError)
  /-- The default value is not one that the inner schema reads. -/
  | defaultValue (failure : Failure)

def DescriptorFault.message : DescriptorFault → String
  | pattern message => message
  | emptyTuple => "tuple needs at least one item"
  | emptyUnion => "union needs at least one alternative"
  | fields error => error.message
  | defaultValue failure => "default value is invalid: " ++ failure.text

inductive CatalogError where
  | unknownSchema (name : String)
  | invalidDescriptor (path : String) (fault : DescriptorFault)
  /-- The names on the way to a reference, which ends where the way has been before. -/
  | referenceCycle (chain : List String)
  | serialize (source : SerializeError)

def CatalogError.message : CatalogError → String
  | unknownSchema name => "unknown schema: " ++ name
  | invalidDescriptor path fault =>
    "invalid schema descriptor at " ++ path ++ ": " ++ fault.message
  | referenceCycle chain => "schema reference cycle: " ++ " -> ".intercalate chain
  | serialize source => "serialize error: " ++ source.message

end TwoWaySchema
