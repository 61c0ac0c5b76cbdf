import TwoWaySchema.Proofs.Catalog.Wrappers

/-!
# Errors of writing in catalogs

The only reason for which a schema of a catalog does not write a JSON value is that the value, or a
part of it, is of another shape.  Numbers that JSON has no form for do not come up: what a JSON
number stands for is finite.
-/

namespace TwoWaySchema

/-- Alone and in a field, what keeps the schema from writing a value is a mismatch. -/
structure Schema.MismatchesOnly {σ α : Type} (s : Schema σ α) : Prop where
  root : ∀ a, FailsByMismatch (s.serialize a)
  field : ∀ a, FailsByMismatch (s.serializeField a)

namespace Schema.MismatchesOnly

variable {σ α β : Type} {s t : Schema σ α}

/-- A schema has the same errors in a field. -/
theorem of_root (h : ∀ a, FailsByMismatch (s.serialize a)) : s.MismatchesOnly where
  root := h
  field a := by
    have hroot := h a
    rw [s.serialize_eq_serializeField a] at hroot
    exact hroot.of_map

theorem map {forward : α → β} {backward : β → Option α} (h : s.MismatchesOnly) :
    (s.map forward backward).MismatchesOnly := by
  refine .of_root fun b ↦ ?_
  rw [Schema.map_serialize_eq]
  split
  next a _ => exact h.root a
  next => exact .error rfl

theorem or (hs : s.MismatchesOnly) (ht : t.MismatchesOnly) : (s.or t).MismatchesOnly :=
  .of_root fun a ↦ FailsByMismatch.firstMatching (hs.root a) (ht.root a)

end Schema.MismatchesOnly

namespace Descriptor

variable {ρ : Type} [Regex.Engine ρ] {s : JsonSchema} {coerces : Bool}

theorem stringSchema_mismatchesOnly {pattern : Option ρ} :
    (stringSchema coerces pattern).MismatchesOnly := by
  refine .map (.of_root fun a ↦ ?_)
  cases pattern <;> cases coerces <;> exact .ok

theorem writeNumber_toDouble (n : Number) : ∃ x, Leaf.writeNumber n.toDouble = .ok x := by
  obtain ⟨m, hm⟩ := exists_jsonNumber? n.isFinite_toDouble
  refine ⟨.number m, ?_⟩
  unfold Leaf.writeNumber
  rw [hm]

theorem numberSchema_mismatchesOnly : (numberSchema coerces).MismatchesOnly := by
  refine .of_root fun v ↦ ?_
  cases v with
  | number n =>
    have hwrite : (numberSchema coerces).serialize (.number n) = Leaf.writeNumber n.toDouble := by
      cases coerces <;> rfl
    obtain ⟨x, hx⟩ := writeNumber_toDouble n
    rw [hwrite, hx]
    exact .ok
  | _ => cases coerces <;> exact .error rfl

theorem integerSchema_mismatchesOnly : (integerSchema coerces).MismatchesOnly := by
  refine .map (.of_root fun i ↦ ?_)
  cases coerces <;> exact .ok

theorem booleanSchema_mismatchesOnly : (booleanSchema coerces).MismatchesOnly := by
  refine .map (.of_root fun b ↦ ?_)
  cases coerces <;> exact .ok

theorem datetimeSchema_mismatchesOnly : datetimeSchema.MismatchesOnly :=
  .map (.of_root fun _ ↦ .ok)

theorem arraySchema_mismatchesOnly (h : s.MismatchesOnly) : (arraySchema s).MismatchesOnly :=
  .map (.of_root fun values ↦ (FailsByMismatch.elementsFrom h.root values 0).map _)

theorem setSchema_mismatchesOnly (h : s.MismatchesOnly) : (setSchema s).MismatchesOnly :=
  .map (.of_root fun values ↦ (FailsByMismatch.elementsFrom h.root values 0).map _)

theorem indexedSchema_mismatchesOnly (h : s.MismatchesOnly) : (indexedSchema s).MismatchesOnly :=
  .map (.of_root fun m ↦ (FailsByMismatch.membersOf h.root m.entries).map _)

theorem serializeFrom_failsByMismatch {ss : List JsonSchema} (h : ∀ s ∈ ss, s.MismatchesOnly)
    (values : List Json) (i : Nat) :
    FailsByMismatch ((JsonShapes.ofList (ss.map Schema.shape)).serializeFrom i values) := by
  induction ss generalizing i values with
  | nil => exact .ok
  | cons s rest ih =>
    obtain ⟨hs, hrest⟩ := List.forall_mem_cons.1 h
    cases values with
    | nil => exact .ok
    | cons a values =>
      have hfirst := (hs.root a).mapError (f := .index i) fun _ ↦ rfl
      exact .bind hfirst fun x ↦ .bind (ih hrest values (i + 1)) fun xs ↦ .ok

theorem sequence_mismatchesOnly {ss : List JsonSchema} (h : ∀ s ∈ ss, s.MismatchesOnly) :
    (Schema.sequence ss).MismatchesOnly := by
  refine .of_root fun v ↦ ?_
  cases v with
  | array values =>
    change FailsByMismatch (if values.length = (JsonShapes.ofList (ss.map Schema.shape)).size then
      ((JsonShapes.ofList (ss.map Schema.shape)).serializeFrom 0 values).map Json.array
      else .error _)
    split
    next => exact (serializeFrom_failsByMismatch h values 0).map _
    next => exact .error rfl
  | _ => exact .error rfl

theorem serialize_fieldsOf_failsByMismatch {fields : List (String × JsonSchema)}
    (h : ∀ field ∈ fields, field.2.MismatchesOnly) (record : Record Json) :
    FailsByMismatch ((fieldsOf fields).serialize record) := by
  induction fields with
  | nil => exact .ok
  | cons field rest ih =>
    obtain ⟨hfield, hrest⟩ := List.forall_mem_cons.1 h
    rw [fieldsOf, Fields.serialize]
    cases record.slot? field.1 with
    | none => exact ih hrest
    | some a =>
      have hslot := (hfield.field a).mapError (f := .field field.1) fun _ ↦ rfl
      exact .bind hslot fun x ↦ .bind (ih hrest) fun xs ↦ .ok

theorem recordSchema_mismatchesOnly {fields : List (String × JsonSchema)} {denyUnknown : Bool}
    (h : ∀ field ∈ fields, field.2.MismatchesOnly) :
    (recordSchema fields denyUnknown).MismatchesOnly :=
  .map (.of_root fun record ↦ (serialize_fieldsOf_failsByMismatch h record).map _)

theorem optionalSchema_mismatchesOnly (h : s.MismatchesOnly) :
    (optionalSchema s).MismatchesOnly := by
  refine .of_root fun v ↦ ?_
  by_cases hv : v = .null
  · subst hv
    exact .ok
  · rw [optionalSchema_serialize_of_ne hv]
    exact h.root v

theorem nullableSchema_mismatchesOnly (h : s.MismatchesOnly) :
    (nullableSchema s).MismatchesOnly := by
  refine .of_root fun v ↦ ?_
  by_cases hv : v = .null
  · subst hv
    exact .ok
  · rw [nullableSchema_serialize_of_ne hv]
    exact h.root v

/-- What a schema that a descriptor denotes does not write is of another shape. -/
theorem Denotes.mismatchesOnly {entries : List (String × Descriptor)} {d : Descriptor}
    (hs : Denotes entries d s) : s.MismatchesOnly := by
  induction hs with
  | string | pattern => exact stringSchema_mismatchesOnly
  | number => exact numberSchema_mismatchesOnly
  | integer => exact integerSchema_mismatchesOnly
  | boolean => exact booleanSchema_mismatchesOnly
  | datetime => exact datetimeSchema_mismatchesOnly
  | array _ ih => exact arraySchema_mismatchesOnly ih
  | set _ ih => exact setSchema_mismatchesOnly ih
  | indexed _ ih => exact indexedSchema_mismatchesOnly ih
  | tuple length _ ih => exact sequence_mismatchesOnly (forall_mem_of_forall_mem_zip length ih)
  | @object fields denyUnknown ts t length _ hobject ih =>
    obtain ⟨-, rfl⟩ := objectSchema_eq_ok_iff.1 hobject
    exact recordSchema_mismatchesOnly (forall_mem_zip_fst length ih)
  | optional _ ih => exact optionalSchema_mismatchesOnly ih
  | nullable _ ih => exact nullableSchema_mismatchesOnly ih
  | orDefault _ _ ih => exact ⟨ih.root, ih.field⟩
  | union length _ ih =>
    exact unionSchema_of_or (fun _ _ hs ht ↦ hs.or ht) (forall_mem_of_forall_mem_zip length ih)
  | reference _ _ ih => exact ih

end Descriptor

end TwoWaySchema

