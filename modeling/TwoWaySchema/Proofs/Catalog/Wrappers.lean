import TwoWaySchema.Proofs.Catalog.Containers
import TwoWaySchema.Proofs.Catalog.Denotation

/-!
# Wrappers and unions in catalogs

Optional, nullable and defaulting schemas pass on what the schema inside reads and writes, except
where the value is null or was not read.  A union passes on what one of its alternatives does.
With these every schema that a descriptor denotes is covered, so every failure fits its input.
-/

namespace TwoWaySchema

namespace Descriptor

variable {s t : JsonSchema} {input : Option Json} {v value : Json}

/-! ## Optional values -/

theorem optionalSchema_parseInput :
    (optionalSchema s).parseInput input = (s.optional.parseInput input).map (·.getD .null) := rfl

theorem optionalSchema_parseInput_of_ok (h : s.parseInput input = .ok v) :
    (optionalSchema s).parseInput input = .ok v := by
  have hoptional : s.optional.parseInput input = .ok (some v) := Shape.parse_optional_of_ok h
  rw [optionalSchema_parseInput, hoptional]
  rfl

theorem optionalSchema_parseInput_of_error {failure : Failure}
    (h : s.parseInput input = .error failure) :
    (optionalSchema s).parseInput input =
      if failure.isMissing then .ok .null else .error failure := by
  have hoptional : s.optional.parseInput input = _ := Shape.parse_optional_of_error h
  rw [optionalSchema_parseInput, hoptional]
  split <;> rfl

theorem optionalSchema_fits (h : (s.parseInput input).Fits input) :
    ((optionalSchema s).parseInput input).Fits input :=
  (Shape.parse_optional_fits h).map _

/-- An optional schema fails on a value that is there, with the errors of the schema inside. -/
theorem optionalSchema_parseInput_eq_error_iff {failure : Failure}
    (h : (s.parseInput input).Fits input) :
    (optionalSchema s).parseInput input = .error failure ↔
      ¬ IsVacant input ∧ s.parseInput input = .error failure := by
  rw [optionalSchema_parseInput, map_eq_error_iff]
  exact Shape.parse_optional_eq_error_iff h

/-- An optional schema reads what the schema inside reads, and null where there is nothing. -/
theorem optionalSchema_parseInput_eq_ok_iff (h : (s.parseInput input).Fits input) :
    (optionalSchema s).parseInput input = .ok v ↔ s.parseInput input = .ok v ∨
      (IsVacant input ∧ v = .null ∧ ∀ a, s.parseInput input ≠ .ok a) := by
  cases hinner : s.parseInput input with
  | ok a =>
    rw [optionalSchema_parseInput_of_ok hinner]
    simp
  | error failure =>
    rw [optionalSchema_parseInput_of_error hinner]
    have hmissing := (h failure hinner).isMissing_iff
    split
    next hyes => simp [hmissing.1 hyes, eq_comm]
    next hno => simp [mt hmissing.2 hno]

theorem optionalSchema_serialize_of_ne (h : v ≠ .null) :
    (optionalSchema s).serialize v = s.serialize v := by
  cases v with
  | null => exact absurd rfl h
  | _ => rfl

theorem optionalSchema_serializeField_of_ne (h : v ≠ .null) :
    (optionalSchema s).serializeField v = s.serializeField v := by
  cases v with
  | null => exact absurd rfl h
  | _ => rfl

/-! ## Nullable values -/

theorem nullableSchema_parseInput :
    (nullableSchema s).parseInput input = (s.nullable.parseInput input).map (·.getD .null) := rfl

theorem nullableSchema_parseInput_of_ne (h : input ≠ some .null) :
    (nullableSchema s).parseInput input = s.parseInput input := by
  have hnullable : s.nullable.parseInput input = (s.parseInput input).map some :=
    Shape.parse_nullable_of_ne h
  rw [nullableSchema_parseInput, hnullable]
  cases s.parseInput input <;> rfl

theorem nullableSchema_fits (h : (s.parseInput input).Fits input) :
    ((nullableSchema s).parseInput input).Fits input :=
  (Shape.parse_nullable_fits h).map _

theorem nullableSchema_serialize_of_ne (h : v ≠ .null) :
    (nullableSchema s).serialize v = s.serialize v := by
  cases v with
  | null => exact absurd rfl h
  | _ => rfl

theorem nullableSchema_serializeField :
    (nullableSchema s).serializeField v = ((nullableSchema s).serialize v).map some := by
  cases v <;> rfl

/-! ## Defaults -/

theorem orDefault_parseInput_eq_ok_iff :
    (s.orDefault value).parseInput input = .ok v ↔ s.parseInput input = .ok v ∨
      (v = value ∧ ∀ a, s.parseInput input ≠ .ok a) := by
  change (Shape.orDefault s.shape value).parse input = .ok v ↔ s.shape.parse input = .ok v ∨ _ ∧
    ∀ a, s.shape.parse input ≠ .ok a
  rw [Shape.parse]
  cases s.shape.parse input <;> simp [eq_comm]

theorem orDefault_fits : ((s.orDefault value).parseInput input).Fits input := by
  intro failure hfailure
  change (Shape.orDefault s.shape value).parse input = .error failure at hfailure
  rw [Shape.parse] at hfailure
  split at hfailure <;> cases hfailure

/-! ## Unions -/

theorem or_fits (hs : (s.parseInput input).Fits input) (ht : (t.parseInput input).Fits input) :
    ((s.or t).parseInput input).Fits input := by
  change Outcome.Fits ((Shape.union s.shape t.shape).parse input) input
  rw [Shape.parse]
  exact Parts.readEither_fits hs ht

theorem or_parseInput_eq_ok (h : (s.or t).parseInput input = .ok v) :
    s.parseInput input = .ok v ∨ t.parseInput input = .ok v :=
  Parts.readEither_eq_ok h

/-- What passes from two alternatives to their union passes from any number of them. -/
theorem unionSchema_of_or {p : JsonSchema → Prop} {others : List JsonSchema}
    (hor : ∀ s t, p s → p t → p (s.or t)) (h : ∀ alternative ∈ s :: others, p alternative) :
    p (unionSchema s others) := by
  induction others generalizing s with
  | nil => exact h s List.mem_cons_self
  | cons t rest ih =>
    obtain ⟨hs, hothers⟩ := List.forall_mem_cons.1 h
    obtain ⟨ht, hrest⟩ := List.forall_mem_cons.1 hothers
    exact ih (List.forall_mem_cons.2 ⟨hor s t hs ht, hrest⟩)

end Descriptor

/-! ## Failures of denotations -/

/-- Every failure of a schema that a descriptor denotes names an error, and it is that of a missing
value exactly where there is no value or only a null. -/
theorem Descriptor.Denotes.fits {ρ : Type} [Regex.Engine ρ] {entries : List (String × Descriptor)}
    {d : Descriptor} {s : JsonSchema} (hs : d.Denotes entries s) (input : Option Json) :
    (s.parseInput input).Fits input := by
  induction hs with
  | string | pattern => exact stringSchema_fits
  | number => exact numberSchema_fits
  | integer => exact integerSchema_fits
  | boolean => exact booleanSchema_fits
  | datetime => exact datetimeSchema_fits
  | array => exact arraySchema_fits
  | set => exact setSchema_fits
  | tuple => exact sequence_fits
  | object _ _ h =>
    obtain ⟨-, rfl⟩ := objectSchema_eq_ok_iff.1 h
    exact recordSchema_fits
  | indexed => exact indexedSchema_fits
  | optional _ ih => exact optionalSchema_fits ih
  | nullable _ ih => exact nullableSchema_fits ih
  | orDefault => exact orDefault_fits
  | union length _ ih =>
    exact unionSchema_of_or (p := fun s ↦ (s.parseInput input).Fits input)
      (fun _ _ hs ht ↦ or_fits hs ht) (forall_mem_of_forall_mem_zip length ih)
  | reference _ _ ih => exact ih

namespace Descriptor.Denotes

variable {ρ : Type} [Regex.Engine ρ] {entries : List (String × Descriptor)} {d : Descriptor}
  {s : JsonSchema}
  {ds : List Descriptor} {ss : List JsonSchema}

theorem isExplained (hs : Denotes entries d s) (input : Option Json) :
    (s.parseInput input).IsExplained :=
  (hs.fits input).isExplained

theorem isExplained_of_zip (length : ds.length = ss.length)
    (items : ∀ item ∈ ds.zip ss, Denotes entries item.1 item.2) :
    ∀ s ∈ ss, ∀ input, (s.parseInput input).IsExplained :=
  forall_mem_of_forall_mem_zip length fun item hitem ↦ (items item hitem).isExplained

theorem isExplained_of_fields {fields : List (String × Descriptor)}
    (length : fields.length = ss.length)
    (items : ∀ item ∈ (fields.map Prod.snd).zip ss, Denotes entries item.1 item.2) :
    ∀ field ∈ (fields.map Prod.fst).zip ss, ∀ input, (field.2.parseInput input).IsExplained :=
  fun _ hfield ↦ isExplained_of_zip (by simpa using length) items _ (List.of_mem_zip hfield).2

end Descriptor.Denotes

end TwoWaySchema
