import TwoWaySchema.Catalog.Compiler
import TwoWaySchema.Catalog.Source
import TwoWaySchema.Regex

/-!
# Catalogs

A catalog holds a schema for each name of its source, ready for use.  Any engine can compile the
patterns in the source; the one of this library is at hand.
-/

namespace TwoWaySchema

structure Catalog where
  /-- The schemas in ascending order of their names. -/
  schemas : List (String × JsonSchema)

/-- Compiles every descriptor of a source, in the order of their names. -/
def CatalogSource.compile {ρ : Type} [Regex.Engine ρ] (source : CatalogSource) :
    Except CatalogError Catalog :=
  match compileAll source.schemas.entries source.schemas.keys CompilerState.empty with
  | (.ok schemas, _) => .ok ⟨schemas⟩
  | (.error error, _) => .error error

namespace Catalog

def empty : Catalog := ⟨[]⟩

def get (c : Catalog) (name : String) : Except CatalogError JsonSchema :=
  match c.schemas.lookup name with
  | some schema => .ok schema
  | none => .error (.unknownSchema name)

def parse (c : Catalog) (name : String) (raw : Json) : Except CatalogError (Outcome Json) :=
  match c.get name with
  | .ok schema => .ok (schema.parse raw)
  | .error error => .error error

def serialize (c : Catalog) (name : String) (value : Json) : Except CatalogError Json :=
  match c.get name with
  | .ok schema => (schema.serialize value).mapError .serialize
  | .error error => .error error

def names (c : Catalog) : List String :=
  c.schemas.map Prod.fst

def contains (c : Catalog) (name : String) : Bool :=
  c.names.contains name

def size (c : Catalog) : Nat :=
  c.schemas.length

end Catalog

end TwoWaySchema
