import TwoWaySchema.Catalog.Descriptor
import TwoWaySchema.Sorted

/-!
# Sources of catalogs

The source of a catalog is what a catalog file holds: descriptors under names, with a text that
says which version of the format they are in.
-/

namespace TwoWaySchema

structure CatalogSource where
  version : String
  schemas : SortedMap String Descriptor

namespace CatalogSource

/-- A source without descriptors. -/
def empty (version : String) : CatalogSource :=
  ⟨version, .empty⟩

/-- Adds a descriptor, or replaces the one of the same name. -/
def withSchema (source : CatalogSource) (name : String) (d : Descriptor) : CatalogSource :=
  { source with schemas := source.schemas.insert name d }

instance : BEq CatalogSource where
  beq a b := a.version == b.version && a.schemas.entries == b.schemas.entries

end CatalogSource

end TwoWaySchema
