import TwoWaySchema.Proofs.Catalog.Mismatch
import TwoWaySchema.Proofs.Catalog.ParsedValues

/-!
# Valid values are written

A schema of a catalog writes every value that it accepts, alone and in a field.  In a union this
need not be the work of the alternative that accepts the value: one before it may write it first,
and none can keep it from being written, because all that an alternative reports is a mismatch.
-/

namespace TwoWaySchema

/-- Every valid value is written. -/
def Schema.WritesValid (s : JsonSchema) : Prop :=
  ∀ v, s.validate v = true → ∃ w, s.serialize v = .ok w

namespace Schema.WritesValid

open Descriptor

variable {s t : JsonSchema}

theorem of_checksByReparsing (h : s.ChecksByReparsing) : s.WritesValid := by
  intro v hv
  obtain ⟨w, hw, -⟩ := (h v).1 hv
  exact ⟨w, hw⟩

/-- A valid value is also written in a field, or left out there. -/
theorem field (h : s.WritesValid) {v : Json} (hv : s.validate v = true) :
    ∃ f, s.serializeField v = .ok f := by
  obtain ⟨w, hw⟩ := h v hv
  rw [s.serialize_eq_serializeField v] at hw
  obtain ⟨f, hf, -⟩ := map_eq_ok_iff.1 hw
  exact ⟨f, hf⟩

/-! ## Containers -/

theorem exists_written {values : List Json} (h : s.WritesValid)
    (hvalid : ∀ a ∈ values, s.validate a = true) :
    ∃ xs, List.Forall₂ (fun a x ↦ s.serialize a = .ok x) values xs :=
  exists_forall₂ fun a ha ↦ h a (hvalid a ha)

theorem array (h : s.WritesValid) : (arraySchema s).WritesValid := by
  intro v hv
  obtain ⟨values, rfl, hvalid⟩ := arraySchema_validate_iff.1 hv
  obtain ⟨xs, hxs⟩ := h.exists_written hvalid
  exact ⟨_, arraySchema_serialize_eq_ok_iff.2 ⟨values, xs, rfl, hxs, rfl⟩⟩

theorem set (h : s.WritesValid) : (setSchema s).WritesValid := by
  intro v hv
  obtain ⟨values, rfl, -, hvalid⟩ := setSchema_validate_iff.1 hv
  obtain ⟨xs, hxs⟩ := h.exists_written hvalid
  exact ⟨_, setSchema_serialize_eq_ok_iff.2 ⟨values, xs, rfl, hxs, rfl⟩⟩

theorem sequence {ss : List JsonSchema} (h : ∀ s ∈ ss, s.WritesValid) :
    (Schema.sequence ss).WritesValid := by
  intro v hv
  obtain ⟨values, rfl, hlength, hvalid⟩ := sequence_validate_iff.1 hv
  have hwrite : ∀ part ∈ ss.zip values, ∃ x, part.1.serialize part.2 = .ok x := fun part hpart ↦
    h part.1 (List.of_mem_zip hpart).1 part.2 (hvalid part hpart)
  obtain ⟨xs, hxs⟩ := exists_forall₂ hwrite
  exact ⟨_, sequence_serialize_eq_ok_iff.2 ⟨values, xs, rfl, hlength, hxs, rfl⟩⟩

theorem indexed (h : s.WritesValid) : (indexedSchema s).WritesValid := by
  intro v hv
  obtain ⟨members, rfl, hvalid⟩ := indexedSchema_validate_iff.1 hv
  have hwrite : ∀ entry ∈ (SortedMap.ofList members).entries, ∃ member : String × Json,
      member.1 = entry.1 ∧ s.serialize entry.2 = .ok member.2 := by
    intro entry hentry
    obtain ⟨x, hx⟩ := h entry.2 (hvalid entry hentry)
    exact ⟨(entry.1, x), rfl, hx⟩
  obtain ⟨written, hwritten⟩ := exists_forall₂ hwrite
  exact ⟨_, indexedSchema_serialize_eq_ok_iff.2 ⟨members, written, rfl, hwritten, rfl⟩⟩

/-- A field that is not there is left out, whatever its schema reads from nothing. -/
theorem record {fields : List (String × JsonSchema)} {denyUnknown : Bool}
    (h : ∀ field ∈ fields, field.2.WritesValid) :
    (recordSchema fields denyUnknown).WritesValid := by
  intro v hv
  obtain ⟨members, rfl, hslots⟩ := recordSchema_validate_iff.1 hv
  have hwrite : ∀ field ∈ fields, ∃ f,
      Writes field.2 ((recordOfMembers members).slot? field.1) f := by
    intro field hfield
    have hslot := hslots field hfield
    cases hfound : (recordOfMembers members).slot? field.1 with
    | none => exact ⟨none, rfl⟩
    | some a =>
      rw [hfound] at hslot
      exact (h field hfield).field hslot
  obtain ⟨written, hwritten⟩ := exists_forall₂ hwrite
  exact ⟨_, recordSchema_serialize_eq_ok_iff.2 ⟨members, written, rfl, hwritten, rfl⟩⟩

/-! ## Wrappers and unions -/

/-- A schema that takes null for null, and all else like another one. -/
theorem of_null (h : s.WritesValid)
    (hvalidate : ∀ v, t.validate v = true → v = .null ∨ s.validate v = true)
    (hnull : t.serialize .null = .ok .null)
    (hserialize : ∀ v, v ≠ .null → t.serialize v = s.serialize v) : t.WritesValid := by
  intro v hv
  by_cases hvnull : v = .null
  · subst hvnull
    exact ⟨.null, hnull⟩
  · rw [hserialize v hvnull]
    exact h v ((hvalidate v hv).resolve_left hvnull)

theorem optional (h : s.WritesValid) : (optionalSchema s).WritesValid :=
  h.of_null (fun _ ↦ optionalSchema_validate_iff.1) rfl fun _ ↦ optionalSchema_serialize_of_ne

theorem nullable (h : s.WritesValid) : (nullableSchema s).WritesValid :=
  h.of_null (fun _ ↦ nullableSchema_validate_iff.1) rfl fun _ ↦ nullableSchema_serialize_of_ne

/-- Where the first alternative does not write the value, it says that the value mismatches, and
the second one has its turn. -/
theorem or (hs : s.WritesValid) (ht : t.WritesValid) (hmismatch : s.MismatchesOnly) :
    (s.or t).WritesValid := by
  intro v hv
  apply FailsByMismatch.exists_firstMatching (hmismatch.root v)
  exact (or_validate_iff.1 hv).imp (hs v) (ht v)

end Schema.WritesValid

/-! ## Denotations -/

namespace Descriptor

variable {ρ : Type} [Regex.Engine ρ] {entries : List (String × Descriptor)} {d : Descriptor}
  {s : JsonSchema}

/-- The schema of every descriptor writes what it accepts. -/
theorem Denotes.writesValid (hs : Denotes entries d s) : s.WritesValid := by
  induction hs with
  | string | pattern => exact .of_checksByReparsing stringSchema_checksByReparsing
  | number => exact .of_checksByReparsing numberSchema_checksByReparsing
  | integer => exact .of_checksByReparsing integerSchema_checksByReparsing
  | boolean => exact .of_checksByReparsing booleanSchema_checksByReparsing
  | datetime => exact .of_checksByReparsing datetimeSchema_checksByReparsing
  | array _ ih => exact ih.array
  | set _ ih => exact ih.set
  | indexed _ ih => exact ih.indexed
  | tuple length _ ih => exact .sequence (forall_mem_of_forall_mem_zip length ih)
  | object length _ hobject ih =>
    obtain ⟨-, rfl⟩ := objectSchema_eq_ok_iff.1 hobject
    exact .record (forall_mem_zip_fst length ih)
  | optional _ ih => exact ih.optional
  | nullable _ ih => exact ih.nullable
  | orDefault _ _ ih => exact ih
  | @union ds t ts length items ih =>
    -- An alternative that is itself a union of earlier ones must fail by mismatches too.
    have hboth : ∀ alternative ∈ t :: ts, alternative.WritesValid ∧ alternative.MismatchesOnly :=
      forall_mem_of_forall_mem_zip length fun item hitem ↦
        ⟨ih item hitem, (items item hitem).mismatchesOnly⟩
    refine (unionSchema_of_or (p := fun s ↦ s.WritesValid ∧ s.MismatchesOnly) ?_ hboth).1
    exact fun _ _ hs ht ↦ ⟨hs.1.or ht.1 hs.2, hs.2.or ht.2⟩
  | reference _ _ ih => exact ih

end Descriptor

/-! ## Catalogs -/

namespace Catalog

/-- Alone and in a field, a schema of a catalog writes a value or says that the value, or a part of
it, is of another shape; a number that JSON has no form for is never the reason.  It does write all
values that it accepts. -/
theorem serialize_or_mismatch {ρ : Type} [Regex.Engine ρ] {source : CatalogSource}
    {catalog : Catalog} {name : String} {s : JsonSchema} (h : source.compile = .ok catalog)
    (hs : catalog.get name = .ok s) (v : Json) :
    (∀ error, s.serialize v = .error error →
      error.isMismatch = true ∧ ∀ x, error.cause ≠ .nonFinite x) ∧
    (∀ error, s.serializeField v = .error error →
      error.isMismatch = true ∧ ∀ x, error.cause ≠ .nonFinite x) ∧
    (s.validate v = true → (∃ w, s.serialize v = .ok w) ∧ ∃ f, s.serializeField v = .ok f) := by
  have hdenotes := CatalogSource.denotes_of_get h hs
  have hmismatch := hdenotes.mismatchesOnly
  refine ⟨fun error herror ↦ ?_, fun error herror ↦ ?_, fun hv ↦ ?_⟩
  · have hcause := hmismatch.root v error herror
    exact ⟨hcause, SerializeError.cause_ne_nonFinite hcause⟩
  · have hcause := hmismatch.field v error herror
    exact ⟨hcause, SerializeError.cause_ne_nonFinite hcause⟩
  · exact ⟨hdenotes.writesValid v hv, hdenotes.writesValid.field hv⟩

/-! ## Notes that are written and notes that are not -/

theorem note_serialize_or_mismatch : ∃ catalog, noteSource.compile = .ok catalog ∧
    catalog.get "note" = .ok noteSchema ∧
      noteSchema.validate (.object [("tags", .array [.string "old"])]) = true ∧
        (∃ w, noteSchema.serialize (.object [("tags", .array [.string "old"])]) = .ok w) ∧
      ∃ error, noteSchema.serialize (.object [("tags", .array [.bool true])]) =
          .error (.field "tags" (.index 0 error)) ∧ error.isMismatch = true := by
  obtain ⟨catalog, h, -, hnote⟩ := exists_noteCatalog
  have hvalid : noteSchema.validate (.object [("tags", .array [.string "old"])]) = true := rfl
  have hwritten := ((serialize_or_mismatch h hnote _).2.2 hvalid).1
  have hmismatch := (serialize_or_mismatch h hnote (.object [("tags", .array [.bool true])])).1
  exact ⟨catalog, h, hnote, hvalid, hwritten, _, rfl, (hmismatch _ rfl).1⟩

end Catalog

end TwoWaySchema
