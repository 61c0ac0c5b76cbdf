import TwoWaySchema.Proofs.Catalog.Containers
import TwoWaySchema.Proofs.Catalog.Denotation

/-!
# Validity in catalogs

Which JSON values a schema of a catalog accepts as valid, in terms of the schemas of its parts.  A
scalar is valid when what is written for it can be read.  An object is valid when each of its fields
is, and a field that is not there when its schema reads an absent value.  Members that are no fields
do not count.
-/

namespace TwoWaySchema

namespace Schema

variable {σ α β : Type} {s : Schema σ α} {input : Option Json}

/-- The schema accepts the input, which may be absent. -/
def Reads (s : Schema σ α) (input : Option Json) : Prop :=
  ∃ a, s.parseInput input = .ok a

/-! ## Constrained and mapped schemas -/

theorem refine_reads_iff {accepts : α → Bool} {message : String} :
    (s.refine accepts message).Reads input ↔
      ∃ a, s.parseInput input = .ok a ∧ accepts a = true := by
  change (∃ a, (Shape.refine s.shape accepts message).parse input = .ok a) ↔
    ∃ a, s.shape.parse input = .ok a ∧ _
  rw [Shape.parse_refine]
  cases s.shape.parse input with
  | ok a => cases haccepts : accepts a <;> simp [bind, Except.bind, haccepts]
  | error => simp [bind, Except.bind]

theorem map_reads_iff {forward : α → β} {backward : β → Option α} :
    (s.map forward backward).Reads input ↔ s.Reads input := by
  change (∃ b, (s.parseInput input).map forward = .ok b) ↔ _
  simp only [map_eq_ok_iff]
  exact ⟨fun ⟨_, a, ha, _⟩ ↦ ⟨a, ha⟩, fun ⟨a, ha⟩ ↦ ⟨_, a, ha, rfl⟩⟩

theorem tryMap_reads_iff {forward : α → Except String β} {backward : β → Option α} :
    (s.tryMap forward backward).Reads input ↔
      ∃ a, s.parseInput input = .ok a ∧ (forward a).isOk = true := by
  change (∃ b, (Shape.tryMap s.shape forward backward).parse input = .ok b) ↔
    ∃ a, s.shape.parse input = .ok a ∧ _
  rw [Shape.parse_tryMap]
  cases s.shape.parse input with
  | ok a =>
    cases hforward : forward a <;>
      simp [bind, Except.bind, Outcome.ofMessage, isOk_iff, hforward]
  | error => simp [bind, Except.bind]

/-- What is mapped back to a valid value is valid. -/
theorem map_validate_iff {forward : α → β} {backward : β → Option α} {b : β} :
    (s.map forward backward).validate b = true ↔
      ∃ a, backward b = some a ∧ s.validate a = true := by
  change (Shape.map s.shape forward backward).check b = true ↔ _
  rw [Shape.check]
  cases backward b <;> simp [Schema.validate]

theorem tryMap_validate_iff {forward : α → Except String β} {backward : β → Option α} {b : β} :
    (s.tryMap forward backward).validate b = true ↔
      ∃ a, backward b = some a ∧ s.validate a = true ∧ (forward a).isOk = true := by
  change (Shape.tryMap s.shape forward backward).check b = true ↔ _
  rw [Shape.check]
  cases backward b <;> simp [Schema.validate]

/-- Writing looks at the way back only, so it makes no difference that the way forward may fail. -/
theorem tryMap_serialize_eq_ok_iff {forward : α → Except String β} {backward : β → Option α}
    {b : β} {x : Json} :
    (s.tryMap forward backward).serialize b = .ok x ↔
      ∃ a, backward b = some a ∧ s.serialize a = .ok x := by
  have hmap : (s.tryMap forward backward).serialize b =
      (s.map (fun _ ↦ b) backward).serialize b := rfl
  rw [hmap, map_serialize_eq_ok_iff]

/-! ## Writing and reading again -/

/-- A value is valid exactly when what is written for it can be read. -/
def ChecksByReparsing (s : Schema σ α) : Prop :=
  ∀ a, s.validate a = true ↔ ∃ w, s.serialize a = .ok w ∧ s.Reads (some w)

theorem reparses_iff {a : α} :
    s.shape.reparses a = true ↔ ∃ w, s.serialize a = .ok w ∧ s.Reads (some w) := by
  have hserialize : s.serialize a = s.shape.serialize a := rfl
  rw [Shape.reparses, hserialize]
  cases s.shape.serialize a with
  | ok w =>
    rw [isOk_iff]
    constructor
    · exact fun hread ↦ ⟨w, rfl, hread⟩
    · rintro ⟨_, hw, hread⟩
      rwa [Except.ok.inj hw]
  | error => simp

namespace ChecksByReparsing

theorem of_reparses (h : ∀ a, s.validate a = s.shape.reparses a) : s.ChecksByReparsing := by
  intro a
  rw [h, reparses_iff]

theorem map {forward : α → β} {backward : β → Option α} (h : s.ChecksByReparsing) :
    (s.map forward backward).ChecksByReparsing := by
  intro b
  rw [map_validate_iff]
  simp only [h _, map_serialize_eq_ok_iff, map_reads_iff]
  exact ⟨fun ⟨a, ha, w, hw, hread⟩ ↦ ⟨w, ⟨a, ha, hw⟩, hread⟩,
    fun ⟨w, ⟨a, ha, hw⟩, hread⟩ ↦ ⟨a, ha, w, hw, hread⟩⟩

/-- A constraint that has the same answer for a value as for what is read of it again. -/
theorem refine {accepts : α → Bool} {message : String} (h : s.ChecksByReparsing)
    (hagain : ∀ a w b, s.serialize a = .ok w → s.parse w = .ok b → accepts b = accepts a) :
    (s.refine accepts message).ChecksByReparsing := by
  intro a
  have hserialize : (s.refine accepts message).serialize a = s.serialize a := rfl
  change (accepts a && s.validate a) = true ↔ _
  rw [Bool.and_eq_true_iff, h, hserialize]
  simp only [refine_reads_iff]
  constructor
  · rintro ⟨haccepts, w, hw, b, hb⟩
    exact ⟨w, hw, b, hb, (hagain a w b hw hb).trans haccepts⟩
  · rintro ⟨w, hw, b, hb, haccepts⟩
    exact ⟨(hagain a w b hw hb).symm.trans haccepts, w, hw, b, hb⟩

/-- A way forward that fails for a value exactly when it fails for what is read of it again. -/
theorem tryMap {forward : α → Except String β} {backward : β → Option α}
    (h : s.ChecksByReparsing)
    (hagain : ∀ a w b, s.serialize a = .ok w → s.parse w = .ok b →
      (forward b).isOk = (forward a).isOk) :
    (s.tryMap forward backward).ChecksByReparsing := by
  intro v
  rw [tryMap_validate_iff]
  simp only [h _, tryMap_serialize_eq_ok_iff, tryMap_reads_iff]
  constructor
  · rintro ⟨a, ha, ⟨w, hw, b, hb⟩, hforward⟩
    exact ⟨w, ⟨a, ha, hw⟩, b, hb, (hagain a w b hw hb).trans hforward⟩
  · rintro ⟨w, ⟨a, ha, hw⟩, b, hb, hforward⟩
    exact ⟨a, ha, ⟨w, hw, b, hb⟩, (hagain a w b hw hb).symm.trans hforward⟩

end ChecksByReparsing

end Schema

namespace Descriptor

/-! ## Scalars -/

section Scalars

variable {ρ : Type} [Regex.Engine ρ] {coerces : Bool}

theorem stringSchema_checksByReparsing {pattern : Option ρ} :
    (stringSchema coerces pattern).ChecksByReparsing := by
  have htext : (if coerces then (Schema.string : Schema Json String).coerce
      else Schema.string).ChecksByReparsing := by
    cases coerces <;> exact .of_reparses fun _ ↦ rfl
  cases pattern with
  | none => exact htext.map
  | some regex =>
    refine .map (.refine htext fun a w b hw hb ↦ ?_)
    cases coerces <;> cases hw <;> cases hb <;> rfl

theorem numberSchema_checksByReparsing : (numberSchema coerces).ChecksByReparsing := by
  have hnumber : (if coerces then (Schema.number : Schema Json Double).coerce
      else Schema.number).ChecksByReparsing := by
    cases coerces <;> exact .of_reparses fun _ ↦ rfl
  refine .tryMap hnumber fun a w b hw hb ↦ ?_
  have hwrite : Leaf.writeNumber a = .ok w := by
    cases coerces <;> exact hw
  unfold Leaf.writeNumber at hwrite
  cases hform : jsonNumber? a with
  | none =>
    rw [hform] at hwrite
    cases hwrite
  | some n =>
    rw [hform] at hwrite
    cases hwrite
    obtain rfl : n.toDouble = b := by
      cases coerces <;> exact Except.ok.inj hb
    rw [jsonNumber?_toDouble hform]

theorem integerSchema_checksByReparsing : (integerSchema coerces).ChecksByReparsing := by
  refine .map (.of_reparses fun i ↦ ?_)
  cases coerces <;> rfl

theorem booleanSchema_checksByReparsing : (booleanSchema coerces).ChecksByReparsing := by
  refine .map (.of_reparses fun b ↦ ?_)
  cases coerces <;> rfl

theorem datetimeSchema_checksByReparsing : datetimeSchema.ChecksByReparsing :=
  .map (.of_reparses fun _ ↦ rfl)

end Scalars


variable {s t : JsonSchema} {ss : List JsonSchema} {fields : List (String × JsonSchema)}
  {denyUnknown : Bool} {v value : Json}

/-! ## Sequences -/

theorem arraySchema_validate_iff : (arraySchema s).validate v = true ↔
    ∃ values, v = .array values ∧ ∀ a ∈ values, s.validate a = true := by
  rw [arraySchema, Schema.map_validate_iff]
  simp only [toItems?_eq_some_iff]
  exact exists_congr fun values ↦ and_congr_right fun _ ↦ List.all_eq_true

theorem setSchema_validate_iff : (setSchema s).validate v = true ↔
    ∃ values, v = .array values ∧ Parts.areDistinct values = true ∧
      ∀ a ∈ values, s.validate a = true := by
  rw [setSchema, Schema.map_validate_iff]
  simp only [toItems?_eq_some_iff]
  refine exists_congr fun values ↦ and_congr_right fun _ ↦ ?_
  exact Bool.and_eq_true_iff.trans (and_congr_right fun _ ↦ List.all_eq_true)

theorem check_ofList_iff {values : List Json} (length : values.length = ss.length) :
    (JsonShapes.ofList (ss.map Schema.shape)).check values = true ↔
      ∀ part ∈ ss.zip values, part.1.validate part.2 = true := by
  induction ss generalizing values with
  | nil => simp [JsonShapes.ofList, JsonShapes.check]
  | cons s rest ih =>
    obtain ⟨a, values, rfl⟩ := List.exists_cons_of_length_eq_add_one length
    rw [List.map_cons, JsonShapes.ofList, JsonShapes.check, Bool.and_eq_true_iff,
      ih (by simpa using length), List.zip_cons_cons, List.forall_mem_cons]
    rfl

theorem sequence_validate_iff : (Schema.sequence ss).validate v = true ↔
    ∃ values, v = .array values ∧ values.length = ss.length ∧
      ∀ part ∈ ss.zip values, part.1.validate part.2 = true := by
  have hsize : (JsonShapes.ofList (ss.map Schema.shape)).size = ss.length := by
    rw [JsonShapes.size_ofList, List.length_map]
  cases v with
  | array values =>
    change (decide (values.length = (JsonShapes.ofList (ss.map Schema.shape)).size) &&
      (JsonShapes.ofList (ss.map Schema.shape)).check values) = true ↔ _
    rw [Bool.and_eq_true_iff, decide_eq_true_iff, hsize]
    simp only [Json.array.injEq]
    constructor
    · rintro ⟨hlength, hcheck⟩
      exact ⟨values, rfl, hlength, (check_ofList_iff hlength).1 hcheck⟩
    · rintro ⟨_, rfl, hlength, hall⟩
      exact ⟨hlength, (check_ofList_iff hlength).2 hall⟩
  | _ => exact iff_of_false nofun nofun

/-! ## Objects -/

theorem indexedSchema_validate_iff : (indexedSchema s).validate v = true ↔
    ∃ members, v = .object members ∧
      ∀ entry ∈ (SortedMap.ofList members).entries, s.validate entry.2 = true := by
  rw [indexedSchema, Schema.map_validate_iff]
  simp only [Option.map_eq_some_iff, toMembers?_eq_some_iff]
  constructor
  · rintro ⟨_, ⟨members, rfl, rfl⟩, hall⟩
    exact ⟨members, rfl, List.all_eq_true.1 hall⟩
  · rintro ⟨members, rfl, hall⟩
    exact ⟨_, ⟨members, rfl, rfl⟩, List.all_eq_true.2 hall⟩

/-- A slot of a field is in order: what is there is valid, and what is not there can be read. -/
def AcceptsSlot (s : JsonSchema) : (slot : Option Json) → Prop
  | none => s.Reads none
  | some a => s.validate a = true

theorem check_fieldsOf_iff {record : Record Json} : (fieldsOf fields).check record = true ↔
    ∀ field ∈ fields, AcceptsSlot field.2 (record.slot? field.1) := by
  induction fields with
  | nil => simp [fieldsOf, Fields.check]
  | cons field rest ih =>
    rw [fieldsOf, Fields.check, Bool.and_eq_true_iff, ih, List.forall_mem_cons]
    refine and_congr_left fun _ ↦ ?_
    cases record.slot? field.1 with
    | none => exact isOk_iff
    | some a => rfl

theorem recordSchema_validate_iff : (recordSchema fields denyUnknown).validate v = true ↔
    ∃ members, v = .object members ∧
      ∀ field ∈ fields, AcceptsSlot field.2 ((recordOfMembers members).slot? field.1) := by
  rw [recordSchema, Schema.map_validate_iff]
  simp only [Option.map_eq_some_iff, toMembers?_eq_some_iff]
  constructor
  · rintro ⟨_, ⟨members, rfl, rfl⟩, hall⟩
    exact ⟨members, rfl, check_fieldsOf_iff.1 hall⟩
  · rintro ⟨members, rfl, hall⟩
    exact ⟨_, ⟨members, rfl, rfl⟩, check_fieldsOf_iff.2 hall⟩

/-! ## Wrappers and unions -/

theorem optionalSchema_validate_iff :
    (optionalSchema s).validate v = true ↔ v = .null ∨ s.validate v = true := by
  cases v <;> simp <;> rfl

theorem nullableSchema_validate_iff :
    (nullableSchema s).validate v = true ↔ v = .null ∨ s.validate v = true := by
  cases v <;> simp <;> rfl

/-- A default has no say in what is valid. -/
theorem orDefault_validate : (s.orDefault value).validate v = s.validate v := rfl

theorem or_validate_iff :
    (s.or t).validate v = true ↔ s.validate v = true ∨ t.validate v = true :=
  Bool.or_eq_true_iff

end Descriptor

end TwoWaySchema
