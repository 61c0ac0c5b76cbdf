import Mathlib.Data.List.Dedup
import Mathlib.Data.List.Induction
import TwoWaySchema.Proofs.List
import TwoWaySchema.Proofs.Lookup
import TwoWaySchema.Registry

/-!
# Registries in use

Schemas of any types are registered one after the other.  A registry finds out only when it is
asked whether the schema under a tag is one of the tag's type, but it always is, so no schema that
is there is passed over.  Every type is served by the schema that was registered last for it, and
the types are counted and named once each.
-/

namespace TwoWaySchema

variable {τ σ : Type} {family : TypeFamily τ} [DecidableEq τ] {t other : τ}
  {schema : Schema σ (family.Carrier t)}

theorem AnySchema.downcast?_eq_some_iff {s : AnySchema family σ} :
    s.downcast? t = some schema ↔ s = ⟨t, schema⟩ := by
  obtain ⟨tag, stored⟩ := s
  unfold downcast?
  split
  next h =>
    subst h
    simp
  next h => exact iff_of_false nofun fun heq ↦ h (congrArg AnySchema.tag heq)

namespace Registry

variable {r : Registry family σ}

/-! ## One registry -/

/-- What is kept for a type when a schema is registered for it. -/
def entryFor (t : τ) (schema : Schema σ (family.Carrier t)) : RegistryEntry family σ :=
  ⟨family.name t, ⟨t, schema⟩⟩

theorem stored?_register (schema : Schema σ (family.Carrier t)) :
    (r.register t schema).2.stored? other =
      if other = t then some (entryFor t schema) else r.stored? other :=
  lookup_storeEntry

/-- A type is served by a schema: it is the one that is found, and it reads, writes and checks the
values of the type. -/
structure Serves (r : Registry family σ) (t : τ) (schema : Schema σ (family.Carrier t)) :
    Prop where
  schemaFor : r.schemaFor t = .ok schema
  parse : ∀ raw, r.parse t raw = .ok (schema.parse raw)
  serialize : ∀ value, r.serialize t value = (schema.serialize value).mapError .serialize
  validate : ∀ value, r.validate t value = .ok (schema.validate value)

theorem Serves.of_find? (h : r.find? t = some schema) : r.Serves t schema := by
  have hschema : r.schemaFor t = .ok schema := by rw [Registry.schemaFor, h]
  exact ⟨hschema, fun raw ↦ by rw [Registry.parse, hschema],
    fun value ↦ by rw [Registry.serialize, hschema], fun value ↦ by rw [Registry.validate, hschema]⟩

theorem serves_iff : r.Serves t schema ↔ r.find? t = some schema := by
  refine ⟨fun h ↦ ?_, .of_find?⟩
  have hschema := h.schemaFor
  unfold Registry.schemaFor at hschema
  split at hschema
  next hfind => rw [hfind, Except.ok.inj hschema]
  next => cases hschema

/-! What is not found is an error that names the type, whatever the type is used for. -/

theorem schemaFor_eq_error_iff {error : RegistryError} :
    r.schemaFor t = .error error ↔
      r.find? t = none ∧ error = .unregisteredType (family.name t) := by
  cases h : r.find? t <;> simp [schemaFor, h, eq_comm]

theorem parse_eq_error_iff {raw : Json} {error : RegistryError} :
    r.parse t raw = .error error ↔
      r.find? t = none ∧ error = .unregisteredType (family.name t) := by
  rw [← schemaFor_eq_error_iff, parse]
  cases r.schemaFor t <;> simp

theorem validate_eq_error_iff {value : family.Carrier t} {error : RegistryError} :
    r.validate t value = .error error ↔
      r.find? t = none ∧ error = .unregisteredType (family.name t) := by
  rw [← schemaFor_eq_error_iff, validate]
  cases r.schemaFor t <;> simp

/-- Writing can also fail with an error of the schema's own. -/
theorem serialize_eq_error_iff {value : family.Carrier t} {name : String} :
    r.serialize t value = .error (.unregisteredType name) ↔
      r.find? t = none ∧ name = family.name t := by
  have hschema : r.schemaFor t = .error (.unregisteredType name) ↔ _ := schemaFor_eq_error_iff
  rw [RegistryError.unregisteredType.injEq] at hschema
  rw [← hschema, serialize]
  cases r.schemaFor t with
  | error _ => simp
  | ok schema => cases h : schema.serialize value <;> simp [h, Except.mapError]

omit [DecidableEq τ] in
theorem pairwise_typeNames (r : Registry family σ) : r.typeNames.Pairwise (· ≤ ·) := by
  have htrans (a b c : String) (hab : decide (a ≤ b)) (hbc : decide (b ≤ c)) : decide (a ≤ c) :=
    decide_eq_true (String.le_trans (of_decide_eq_true hab) (of_decide_eq_true hbc))
  have htotal (a b : String) : decide (a ≤ b) || decide (b ≤ a) := by
    simpa using String.le_total a b
  exact (List.pairwise_mergeSort htrans htotal _).imp fun h ↦ of_decide_eq_true h

/-! ## Many registrations -/

/-- The registry that these schemas were registered in one after the other, each for its type. -/
def ofSchemas (schemas : List (AnySchema family σ)) : Registry family σ :=
  schemas.foldl (fun r s ↦ (r.register s.tag s.schema).2) .empty

/-- Of the schemas for this type this one was registered last. -/
def IsRegisteredLast (schemas : List (AnySchema family σ)) (t : τ)
    (schema : Schema σ (family.Carrier t)) : Prop :=
  IsLast (fun s ↦ s.tag = t) ⟨t, schema⟩ schemas

omit [DecidableEq τ] in
theorem exists_isRegisteredLast_iff {schemas : List (AnySchema family σ)} :
    (∃ schema, IsRegisteredLast schemas t schema) ↔ t ∈ schemas.map AnySchema.tag := by
  constructor
  · rintro ⟨schema, hlast⟩
    exact List.mem_map_of_mem (f := AnySchema.tag) hlast.mem
  · intro hmem
    obtain ⟨⟨_, schema⟩, rfl, hlast⟩ := exists_isLast (List.mem_map.1 hmem)
    exact ⟨schema, hlast⟩

/-- The entries are those of the schemas that were registered last. -/
structure IsFaithful (schemas : List (AnySchema family σ)) (r : Registry family σ) : Prop where
  stored?_eq_some_iff : ∀ t entry, r.stored? t = some entry ↔
    ∃ schema, IsRegisteredLast schemas t schema ∧ entry = entryFor t schema
  tagsDistinct : (r.entries.map Prod.fst).Nodup

namespace IsFaithful

variable {schemas : List (AnySchema family σ)}

theorem nil : IsFaithful [] (.empty : Registry family σ) :=
  ⟨fun _ _ ↦ iff_of_false nofun fun ⟨_, h, _⟩ ↦ not_isLast_nil h, List.nodup_nil⟩

theorem register (h : IsFaithful schemas r) (s : AnySchema family σ) :
    IsFaithful (schemas ++ [s]) (r.register s.tag s.schema).2 where
  stored?_eq_some_iff t entry := by
    obtain ⟨tag, stored⟩ := s
    rw [stored?_register]
    simp only [IsRegisteredLast, isLast_concat_iff]
    split
    next ht =>
      subst ht
      simp [eq_comm]
    next ht =>
      rw [h.stored?_eq_some_iff]
      have hne : tag ≠ t := Ne.symm ht
      simp [IsRegisteredLast, hne]
  tagsDistinct := nodup_map_fst_storeEntry h.tagsDistinct

theorem find?_eq_some_iff (h : IsFaithful schemas r) :
    r.find? t = some schema ↔ IsRegisteredLast schemas t schema := by
  unfold find?
  simp only [Option.bind_eq_some_iff, h.stored?_eq_some_iff, AnySchema.downcast?_eq_some_iff]
  constructor
  · rintro ⟨_, ⟨stored, hlast, rfl⟩, hstored⟩
    cases hstored
    exact hlast
  · intro hlast
    exact ⟨_, ⟨schema, hlast, rfl⟩, rfl⟩

theorem find?_eq_none_iff (h : IsFaithful schemas r) :
    r.find? t = none ↔ t ∉ schemas.map AnySchema.tag := by
  rw [← exists_isRegisteredLast_iff, not_exists, Option.eq_none_iff_forall_ne_some]
  exact forall_congr' fun schema ↦ not_congr h.find?_eq_some_iff

theorem mem_tags_iff (h : IsFaithful schemas r) :
    t ∈ r.entries.map Prod.fst ↔ t ∈ schemas.map AnySchema.tag := by
  rw [← exists_isRegisteredLast_iff]
  constructor
  · intro hmem
    obtain ⟨entry, hentry⟩ := exists_lookup_of_mem hmem
    obtain ⟨schema, hlast, -⟩ := (h.stored?_eq_some_iff t entry).1 hentry
    exact ⟨schema, hlast⟩
  · rintro ⟨schema, hlast⟩
    have hentry := (h.stored?_eq_some_iff t _).2 ⟨schema, hlast, rfl⟩
    exact List.mem_map_of_mem (f := Prod.fst) (mem_of_lookup_eq_some hentry)

theorem tags_perm (h : IsFaithful schemas r) :
    (r.entries.map Prod.fst).Perm (schemas.map AnySchema.tag).dedup :=
  (List.perm_ext_iff_of_nodup h.tagsDistinct (List.nodup_dedup _)).2 fun _ ↦
    h.mem_tags_iff.trans List.mem_dedup.symm

/-- An entry is that of a schema of the very type that its tag stands for. -/
theorem exists_eq_entryFor (h : IsFaithful schemas r) {entry : RegistryEntry family σ}
    (hentry : (t, entry) ∈ r.entries) : ∃ schema, entry = entryFor t schema := by
  have hlookup : r.stored? t = some entry := lookup_of_mem h.tagsDistinct hentry
  obtain ⟨schema, -, rfl⟩ := (h.stored?_eq_some_iff t entry).1 hlookup
  exact ⟨schema, rfl⟩

theorem typeNames_perm (h : IsFaithful schemas r) :
    r.typeNames.Perm ((schemas.map AnySchema.tag).dedup.map family.name) := by
  have hnames : (r.entries.map fun entry ↦ entry.2.typeName) =
      (r.entries.map Prod.fst).map family.name := by
    rw [List.map_map]
    refine List.map_congr_left fun ⟨t, entry⟩ hentry ↦ ?_
    obtain ⟨schema, rfl⟩ := h.exists_eq_entryFor hentry
    rfl
  rw [typeNames, hnames]
  exact (List.mergeSort_perm _ _).trans (h.tags_perm.map family.name)

end IsFaithful

theorem ofSchemas_isFaithful (schemas : List (AnySchema family σ)) :
    IsFaithful schemas (ofSchemas schemas) := by
  induction schemas using List.reverseRecOn with
  | nil => exact .nil
  | append_singleton schemas s ih =>
    rw [ofSchemas, List.foldl_append]
    exact ih.register s

/-- Whatever schemas were registered, the entry of each type holds a schema of that very type.  The
next registration gives back the schema that it replaces and touches no other type.  A type that
came up is served by its last schema, and the errors name the types that never came up; the types
that did are counted, and named in ascending order, once each. -/
theorem serves_last_registered (schemas : List (AnySchema family σ)) :
    let r := ofSchemas schemas
    let tags := schemas.map AnySchema.tag
    (∀ t entry, (t, entry) ∈ r.entries → entry.typeName = family.name t ∧
      ∃ schema, entry.schema.downcast? t = some schema) ∧
    (∀ t (schema : Schema σ (family.Carrier t)),
      (∀ replaced, (r.register t schema).1 = some replaced ↔
        IsRegisteredLast schemas t replaced) ∧
      ((r.register t schema).1 = none ↔ t ∉ tags) ∧
      ∀ other, other ≠ t → (r.register t schema).2.stored? other = r.stored? other) ∧
    (∀ t schema, r.Serves t schema ↔ IsRegisteredLast schemas t schema) ∧
    (∀ t, (∀ error, r.schemaFor t = .error error ↔
        t ∉ tags ∧ error = .unregisteredType (family.name t)) ∧
      (∀ raw error, r.parse t raw = .error error ↔
        t ∉ tags ∧ error = .unregisteredType (family.name t)) ∧
      (∀ value name, r.serialize t value = .error (.unregisteredType name) ↔
        t ∉ tags ∧ name = family.name t) ∧
      ∀ value error, r.validate t value = .error error ↔
        t ∉ tags ∧ error = .unregisteredType (family.name t)) ∧
    r.size = tags.dedup.length ∧ r.typeNames.Pairwise (· ≤ ·) ∧
      r.typeNames.Perm (tags.dedup.map family.name) := by
  intro r tags
  have h : IsFaithful schemas r := ofSchemas_isFaithful schemas
  refine ⟨fun t entry hentry ↦ ?_, fun t schema ↦ ⟨fun replaced ↦ h.find?_eq_some_iff,
    h.find?_eq_none_iff, fun other hother ↦ ?_⟩, fun t schema ↦ ?_, fun t ↦ ?_, ?_,
    pairwise_typeNames r, h.typeNames_perm⟩
  · obtain ⟨schema, rfl⟩ := h.exists_eq_entryFor hentry
    exact ⟨rfl, schema, AnySchema.downcast?_eq_some_iff.2 rfl⟩
  · rw [stored?_register, if_neg hother]
  · rw [serves_iff, h.find?_eq_some_iff]
  · simp only [schemaFor_eq_error_iff, parse_eq_error_iff, serialize_eq_error_iff,
      validate_eq_error_iff, h.find?_eq_none_iff]
    exact ⟨fun _ ↦ .rfl, fun _ _ ↦ .rfl, fun _ _ ↦ .rfl, fun _ _ ↦ .rfl⟩
  · rw [← h.tags_perm.length_eq, List.length_map]
    rfl

inductive Plain where
  | text
  | number
deriving DecidableEq

def plainTypes : TypeFamily Plain where
  Carrier
    | .text => String
    | .number => Double
  name
    | .text => "String"
    | .number => "f64"

/-- The schema of texts is replaced. -/
def plainSchemas : List (AnySchema plainTypes Empty) :=
  [⟨.text, Schema.string.withHelp "first"⟩, ⟨.number, Schema.number⟩,
    ⟨.text, Schema.string.withHelp "second"⟩]

theorem plainSchemas_serves_last_registered :
    IsRegisteredLast plainSchemas .text (Schema.string.withHelp "second") ∧
      (ofSchemas plainSchemas).Serves .text (Schema.string.withHelp "second") ∧
      ((ofSchemas plainSchemas).register .number Schema.number.coerce).1 = some Schema.number ∧
      (ofSchemas plainSchemas).size = 2 ∧
      (ofSchemas plainSchemas).typeNames.Perm ["f64", "String"] := by
  have htext : IsRegisteredLast plainSchemas .text (Schema.string.withHelp "second") :=
    ⟨[_, _], [], rfl, nofun⟩
  have hnumber : IsRegisteredLast plainSchemas .number Schema.number :=
    ⟨[_], [_], rfl, by simp⟩
  obtain ⟨-, hregister, hserves, -, hsize, -, hnames⟩ := serves_last_registered plainSchemas
  exact ⟨htext, (hserves _ _).2 htext, ((hregister _ _).1 _).2 hnumber, hsize, hnames⟩

end Registry

end TwoWaySchema
