import TwoWaySchema.Proofs.Catalog.Acceptance
import TwoWaySchema.Proofs.Catalog.Wrappers
import TwoWaySchema.Proofs.Shape.Sequences

/-!
# Tuples of a catalog

The schema of a tuple descriptor does what the tuple of the schemas of its items does.  What sets a
sequence apart from a tuple are failures without an error, and no descriptor denotes a schema that
has such failures.
-/

namespace TwoWaySchema

variable {ρ : Type} [Regex.Engine ρ] {ds : List Descriptor} {s : JsonSchema}

/-- Wherever a tuple descriptor stands, it denotes a schema that reads, describes, checks and writes
as the tuple of what the items denote. -/
theorem Descriptor.Denotes.agrees_with_tupleOf {entries : List (String × Descriptor)}
    (hs : Denotes entries (.tuple ds) s) :
    ∃ items, List.Forall₂ (Denotes entries) ds items ∧
      (∀ input, s.parseInput input =
        ((Schema.tupleOf items).parseInput input).map fun t ↦ .array t.items) ∧
      s.describe = (Schema.tupleOf items).describe ∧
      ∀ t, s.validate (.array t.items) = (Schema.tupleOf items).validate t ∧
        s.serialize (.array t.items) = (Schema.tupleOf items).serialize t := by
  cases hs with
  | @tuple _ first rest length items =>
    have hitems : List.Forall₂ (Denotes entries) ds (first :: rest) :=
      List.forall₂_iff_zip.2 ⟨length, fun hitem ↦ items _ hitem⟩
    have hexplained : ∀ shape ∈ (first :: rest).map Schema.shape,
        ∀ x, (shape.parse (some x)).IsExplained := by
      refine List.forall_mem_map.2 fun item hitem x ↦ ?_
      obtain ⟨d, -, hd⟩ := exists_of_forall₂_right hitems item hitem
      exact (hd.fits (some x)).isExplained
    refine ⟨first :: rest, hitems, fun input ↦ ?_, Shape.describe_sequence_ofList, fun t ↦
      ⟨Shape.check_sequence_ofList t, Shape.serialize_sequence_ofList t⟩⟩
    have htuple : ((Schema.tupleOf (first :: rest)).parseInput input).IsExplained :=
      Shape.isExplained_parse_tuple_ofList hexplained
    exact Shape.parse_sequence_ofList_eq_iff.2 htuple

/-- So does the schema that a catalog has for the name of a tuple descriptor. -/
theorem Catalog.agrees_with_tupleOf {source : CatalogSource} {catalog : Catalog} {name : String}
    (h : source.compile = .ok catalog) (hs : catalog.get name = .ok s)
    (hd : source.schemas.entries.lookup name = some (.tuple ds)) :
    ∃ items, List.Forall₂ (Descriptor.Denotes source.schemas.entries) ds items ∧
      ∀ input, s.parseInput input =
        ((Schema.tupleOf items).parseInput input).map fun t ↦ .array t.items := by
  cases CatalogSource.denotes_of_get h hs with
  | reference hlookup target =>
    obtain rfl := Option.some.inj (hd.symm.trans hlookup)
    obtain ⟨items, hitems, hread, -⟩ := target.agrees_with_tupleOf
    exact ⟨items, hitems, hread⟩

end TwoWaySchema
