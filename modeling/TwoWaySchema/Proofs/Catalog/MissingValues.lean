import TwoWaySchema.Proofs.Catalog.ParsedValues

/-!
# Missing values

A schema of a catalog says that a value is missing exactly where there is none or only a null,
whatever is inside the schema: what is wrong with a part of a value has a path, a union says that a
value is missing only when all its alternatives do, and no wrapper makes one out of the other.  So
an optional schema takes every absence for none and passes on all other failures.
-/

namespace TwoWaySchema.Catalog

open Descriptor

/-- A failure of a schema of a catalog names an error, and it is that of a missing value exactly
where there is no value or only a null.  The optional schema, be it of the catalog or not, never
fails there, and everywhere else it fails as the schema inside does. -/
theorem isMissing_iff_isVacant {ρ : Type} [Regex.Engine ρ] {source : CatalogSource}
    {catalog : Catalog} {name : String} {s : JsonSchema} (h : source.compile = .ok catalog)
    (hs : catalog.get name = .ok s) (input : Option Json) :
    (∀ failure, s.parseInput input = .error failure →
      failure.errors ≠ [] ∧ (failure.isMissing = true ↔ input = none ∨ input = some .null)) ∧
    (∀ failure, s.optional.parseInput input = .error failure ↔
      ¬ (input = none ∨ input = some .null) ∧ s.parseInput input = .error failure) ∧
    ∀ failure, (optionalSchema s).parseInput input = .error failure ↔
      ¬ (input = none ∨ input = some .null) ∧ s.parseInput input = .error failure := by
  have hfits := (CatalogSource.denotes_of_get h hs).fits input
  refine ⟨fun failure hfailure ↦ ?_, fun _ ↦ Shape.parse_optional_eq_error_iff hfits,
    fun _ ↦ optionalSchema_parseInput_eq_error_iff hfits⟩
  exact ⟨(hfits failure hfailure).ne_nil, (hfits failure hfailure).isMissing_iff⟩

theorem label_isMissing : ∃ catalog, noteSource.compile = .ok catalog ∧
    catalog.get "label" = .ok labelSchema ∧
      labelSchema.parseInput (some .null) = .error .missing ∧ Failure.missing.isMissing = true ∧
      labelSchema.parseInput (some (.object [("time", .bool true)])) = .error ⟨[⟨[.key "time"],
        .typeMismatch, "expected timestamp, found boolean"⟩], none⟩ ∧
      labelSchema.optional.parseInput (some (.object [("time", .bool true)])) = .error
        ⟨[⟨[.key "time"], .typeMismatch, "expected timestamp, found boolean"⟩], none⟩ := by
  obtain ⟨catalog, h, hlabel, -⟩ := exists_noteCatalog
  have hnull : labelSchema.parseInput (some .null) = .error .missing := rfl
  have hmissing := (isMissing_iff_isVacant h hlabel (some .null)).1 _ hnull
  have htime : labelSchema.parseInput (some (.object [("time", .bool true)])) = .error
      ⟨[⟨[.key "time"], .typeMismatch, "expected timestamp, found boolean"⟩], none⟩ := rfl
  have hoptional := (isMissing_iff_isVacant h hlabel (some (.object [("time", .bool true)]))).2.1
  exact ⟨catalog, h, hlabel, hnull, hmissing.2.2 (.inr rfl), htime,
    (hoptional _).2 ⟨by simp, htime⟩⟩

end TwoWaySchema.Catalog
