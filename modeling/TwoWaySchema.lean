import TwoWaySchema.Catalog
import TwoWaySchema.Catalog.Source.File
import TwoWaySchema.Failure.Wire
import TwoWaySchema.Registry
import TwoWaySchema.Proofs.Catalog.Compilation
import TwoWaySchema.Proofs.Catalog.Acceptance
import TwoWaySchema.Proofs.Catalog.Scalars
import TwoWaySchema.Proofs.Sorted
import TwoWaySchema.Proofs.Parts
import TwoWaySchema.Proofs.Catalog.Containers
import TwoWaySchema.Proofs.Catalog.Wrappers
import TwoWaySchema.Proofs.Catalog.Null
import TwoWaySchema.Proofs.Catalog.RoundTrip
import TwoWaySchema.Proofs.Catalog.Mismatch
import TwoWaySchema.Proofs.Catalog.Union
import TwoWaySchema.Proofs.Time.Calendar
import TwoWaySchema.Proofs.Time.Rfc3339
import TwoWaySchema.Proofs.Catalog.Datetime
import TwoWaySchema.Proofs.Catalog.Inlining
import TwoWaySchema.Proofs.Json
import TwoWaySchema.Proofs.Catalog.ParsedValues
import TwoWaySchema.Proofs.Catalog.Reparsing
import TwoWaySchema.Proofs.Catalog.Writable
import TwoWaySchema.Proofs.Shape.Reading
import TwoWaySchema.Proofs.Shape.RoundTrip
import TwoWaySchema.Proofs.Catalog.MissingValues
import TwoWaySchema.Proofs.Catalog.Grouping
import TwoWaySchema.Proofs.Shape.ErrorPlaces
import TwoWaySchema.Proofs.Catalog.Locality
import TwoWaySchema.Proofs.Catalog.Normalization
import TwoWaySchema.Proofs.Catalog.Document
import TwoWaySchema.Proofs.Shape.Validity
import TwoWaySchema.Proofs.Shape.DeclaredFields
import TwoWaySchema.Proofs.Shape.Fallbacks
import TwoWaySchema.Proofs.Shape.OptionStacks
import TwoWaySchema.Proofs.Double.Rounding
import TwoWaySchema.Proofs.Double.Nearest
import TwoWaySchema.Proofs.Numeral
import TwoWaySchema.Proofs.Decimal
import TwoWaySchema.Proofs.Coercion
import TwoWaySchema.Proofs.Shape.Coercing
import TwoWaySchema.Proofs.Catalog.CoerceFlags
import TwoWaySchema.Proofs.Shape.RepeatedKeys
import TwoWaySchema.Proofs.Shape.Sets
import TwoWaySchema.Proofs.Shape.Sequences
import TwoWaySchema.Proofs.Shape.Patterns
import TwoWaySchema.Proofs.NumberForm
import TwoWaySchema.Proofs.Shape.BuiltObjects
import TwoWaySchema.Proofs.Record
import TwoWaySchema.Proofs.Registry
import TwoWaySchema.Proofs.Catalog.CompilerStates
import TwoWaySchema.Proofs.Catalog.Recursion
import TwoWaySchema.Proofs.Catalog.Tuples
