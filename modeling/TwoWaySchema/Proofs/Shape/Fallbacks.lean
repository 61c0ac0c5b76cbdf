import TwoWaySchema.Proofs.Writer

/-!
# Fallbacks

A default, a recovery, a transformation and a function that is applied to what was read have their
say when data is read, and only then.  Stripping a shape puts the shape inside in the place of each
of them, wherever it stands.  Descriptions and writers are those of the stripped shape, and so is
the verdict on a value, unless a record in it lacks a field: such a field is asked to read an absent
value, and there a fallback is heard.
-/

namespace TwoWaySchema

variable {σ : Type}

mutual

/-- The shape without the fallbacks and functions in it. -/
def Shape.strip : {α : Type} → Shape σ α → Shape σ α
  | _, .string coerces => .string coerces
  | _, .number coerces => .number coerces
  | _, .integer coerces => .integer coerces
  | _, .boolean coerces => .boolean coerces
  | _, .datetime => .datetime
  | _, .regex engine => .regex engine
  | _, .optional inner => .optional inner.strip
  | _, .nullable inner => .nullable inner.strip
  | _, .orDefault inner _ => inner.strip
  | _, .transform inner _ => inner.strip
  | _, .andThen inner _ => inner.strip
  | _, .recover inner _ => inner.strip
  | _, .refine inner accepts message => .refine inner.strip accepts message
  | _, .map inner forward backward => .map inner.strip forward backward
  | _, .tryMap inner forward backward => .tryMap inner.strip forward backward
  | _, .union first second => .union first.strip second.strip
  | _, .array element => .array element.strip
  | _, .set order element => .set order element.strip
  | _, .distinct equality element => .distinct equality element.strip
  | _, .indexed value => .indexed value.strip
  | _, .mapOf order key value => .mapOf order key.strip value.strip
  | _, .tuple items => .tuple items.strip
  | _, .sequence items => .sequence items.strip
  | _, .object fields denyUnknown => .object fields.strip denyUnknown
  | _, .construct fields denyUnknown build takeApart =>
    .construct fields.strip denyUnknown build takeApart

def Shapes.strip : {αs : List Type} → Shapes σ αs → Shapes σ αs
  | _, .nil => .nil
  | _, .cons first rest => .cons first.strip rest.strip

def JsonShapes.strip : JsonShapes σ → JsonShapes σ
  | .nil => .nil
  | .cons first rest => .cons first.strip rest.strip

def Fields.strip : Fields σ → Fields σ
  | .nil => .nil
  | .cons name type shape rest => .cons name type shape.strip rest.strip

end

/-! ## Descriptions -/

mutual

theorem Shape.describe_strip : {α : Type} → (s : Shape σ α) → s.strip.describe = s.describe
  | _, .string _ | _, .number _ | _, .integer _ | _, .boolean _ | _, .datetime | _, .regex _ => rfl
  | _, .optional inner => congrArg (· ++ "?") inner.describe_strip
  | _, .nullable inner => congrArg (· ++ " | null") inner.describe_strip
  | _, .orDefault inner _ => inner.describe_strip
  | _, .transform inner _ => inner.describe_strip
  | _, .andThen inner _ => inner.describe_strip
  | _, .recover inner _ => inner.describe_strip
  | _, .refine inner _ _ => inner.describe_strip
  | _, .map inner _ _ => inner.describe_strip
  | _, .tryMap inner _ _ => inner.describe_strip
  | _, .union first second => by
    rw [Shape.strip, Shape.describe, first.describe_strip, second.describe_strip, Shape.describe]
  | _, .array element => congrArg ("array<" ++ · ++ ">") element.describe_strip
  | _, .set _ element => congrArg ("set<" ++ · ++ ">") element.describe_strip
  | _, .distinct _ element => congrArg ("set<" ++ · ++ ">") element.describe_strip
  | _, .indexed value => congrArg ("indexed<" ++ · ++ ">") value.describe_strip
  | _, .mapOf _ key value => by
    rw [Shape.strip, Shape.describe, key.describe_strip, value.describe_strip, Shape.describe]
  | _, .tuple items => congrArg ("[" ++ ", ".intercalate · ++ "]") items.describe_strip
  | _, .sequence items => congrArg ("[" ++ ", ".intercalate · ++ "]") items.describe_strip
  | _, .object fields _ => congrArg Fields.enclose fields.describe_strip
  | _, .construct fields _ _ _ => congrArg Fields.enclose fields.describe_strip

theorem Shapes.describe_strip : {αs : List Type} → (items : Shapes σ αs) →
    items.strip.describe = items.describe
  | _, .nil => rfl
  | _, .cons first rest => by
    rw [Shapes.strip, Shapes.describe, first.describe_strip, rest.describe_strip, Shapes.describe]

theorem JsonShapes.describe_strip : (items : JsonShapes σ) → items.strip.describe = items.describe
  | .nil => rfl
  | .cons first rest => by
    rw [JsonShapes.strip, JsonShapes.describe, first.describe_strip, rest.describe_strip,
      JsonShapes.describe]

theorem Fields.describe_strip : (fields : Fields σ) → fields.strip.describe = fields.describe
  | .nil => rfl
  | .cons name type shape rest => by
    rw [Fields.strip, Fields.describe, shape.describe_strip, rest.describe_strip, Fields.describe]

end

/-! ## Writers -/

theorem JsonShapes.size_strip : (items : JsonShapes σ) → items.strip.size = items.size
  | .nil => rfl
  | .cons _ rest => congrArg (· + 1) rest.size_strip

mutual

/-- Nothing that a fallback holds is ever written. -/
theorem Shape.writer_strip : {α : Type} → (s : Shape σ α) → s.strip.writer = s.writer
  | _, .string _ | _, .number _ | _, .integer _ | _, .boolean _ | _, .datetime | _, .regex _ => rfl
  | _, .optional inner => congrArg Writer.optional inner.writer_strip
  | _, .nullable inner => congrArg Writer.nullable inner.writer_strip
  | _, .orDefault inner _ => inner.writer_strip
  | _, .transform inner _ => inner.writer_strip
  | _, .andThen inner _ => inner.writer_strip
  | _, .recover inner _ => inner.writer_strip
  | _, .refine inner _ _ => inner.writer_strip
  | _, .map inner _ _ => by
    simp only [Shape.strip, Shape.writer, inner.describe_strip, inner.writer_strip]
  | _, .tryMap inner _ _ => by
    simp only [Shape.strip, Shape.writer, inner.describe_strip, inner.writer_strip]
  | _, .union first second => by
    simp only [Shape.strip, Shape.writer, first.describe_strip, second.describe_strip,
      first.writer_strip, second.writer_strip]
  | _, .array element => by simp only [Shape.strip, Shape.writer, element.writer_strip]
  | _, .set _ element => by simp only [Shape.strip, Shape.writer, element.writer_strip]
  | _, .distinct _ element => by simp only [Shape.strip, Shape.writer, element.writer_strip]
  | _, .indexed value => by simp only [Shape.strip, Shape.writer, value.writer_strip]
  | _, .mapOf _ key value => by
    simp only [Shape.strip, Shape.writer, key.writer_strip, value.writer_strip]
  | _, .tuple items => by simp only [Shape.strip, Shape.writer, items.serializeFrom_strip]
  | _, .sequence items => by
    simp only [Shape.strip, Shape.writer, items.serializeFrom_strip, items.describe_strip,
      items.size_strip]
  | _, .object fields _ => by simp only [Shape.strip, Shape.writer, fields.serialize_strip]
  | _, .construct fields _ _ _ => by simp only [Shape.strip, Shape.writer, fields.serialize_strip]

theorem Shapes.serializeFrom_strip : {αs : List Type} → (items : Shapes σ αs) → (i : Nat) →
    (values : Tuple αs) → items.strip.serializeFrom i values = items.serializeFrom i values
  | _, .nil, _, _ => rfl
  | _, .cons first rest, i, (a, values) => by
    simp only [Shapes.strip, Shapes.serializeFrom, first.writer_strip, rest.serializeFrom_strip]

theorem JsonShapes.serializeFrom_strip : (items : JsonShapes σ) → (i : Nat) →
    (values : List Json) → items.strip.serializeFrom i values = items.serializeFrom i values
  | .nil, _, _ => rfl
  | .cons _ _, _, [] => rfl
  | .cons first rest, i, a :: values => by
    simp only [JsonShapes.strip, JsonShapes.serializeFrom, first.writer_strip,
      rest.serializeFrom_strip]

theorem Fields.serialize_strip : (fields : Fields σ) → (record : Record σ) →
    fields.strip.serialize record = fields.serialize record
  | .nil, _ => rfl
  | .cons name type shape rest, record => by
    simp only [Fields.strip, Fields.serialize, shape.describe_strip, shape.writer_strip,
      rest.serialize_strip]

end

/-! ## Validity -/

mutual

/-- Every record that is reached when the value is checked holds all fields of its shape.  What a
refinement rejects is not looked into, and a second alternative is asked only about what the first
one rejects. -/
def Shape.IsComplete : {α : Type} → Shape σ α → α → Prop
  | _, .optional inner, v => ∀ a ∈ v, inner.IsComplete a
  | _, .nullable inner, v => ∀ a ∈ v, inner.IsComplete a
  | _, .orDefault inner _, a => inner.IsComplete a
  | _, .transform inner _, a => inner.IsComplete a
  | _, .andThen inner _, a => inner.IsComplete a
  | _, .recover inner _, a => inner.IsComplete a
  | _, .refine inner accepts _, a => accepts a = true → inner.IsComplete a
  | _, .map inner _ backward, b => ∀ a ∈ backward b, inner.IsComplete a
  | _, .tryMap inner _ backward, b => ∀ a ∈ backward b, inner.IsComplete a
  | _, .union first second, a =>
    first.IsComplete a ∧ (first.check a = false → second.IsComplete a)
  | _, .array element, values => ∀ a ∈ values, element.IsComplete a
  | _, .set _ element, s => ∀ a ∈ s.elements, element.IsComplete a
  | _, .distinct _ element, values => ∀ a ∈ values, element.IsComplete a
  | _, .indexed value, m => ∀ entry ∈ m.entries, value.IsComplete entry.2
  | _, .mapOf _ key value, m =>
    ∀ entry ∈ m.entries, key.IsComplete entry.1 ∧ value.IsComplete entry.2
  | _, .tuple items, values => items.IsComplete values
  | _, .sequence items, x => ∀ values, x = .array values → items.IsComplete values
  | _, .object fields _, record => fields.IsComplete record
  | _, .construct fields _ _ takeApart, a => fields.IsComplete (takeApart a)
  | _, _, _ => True

def Shapes.IsComplete : {αs : List Type} → Shapes σ αs → Tuple αs → Prop
  | _, .nil, _ => True
  | _, .cons first rest, (a, values) => first.IsComplete a ∧ rest.IsComplete values

def JsonShapes.IsComplete : JsonShapes σ → List Json → Prop
  | .cons first rest, a :: values => first.IsComplete a ∧ rest.IsComplete values
  | _, _ => True

/-- The record holds all the fields, and what they hold is complete too. -/
def Fields.IsComplete : Fields σ → Record σ → Prop
  | .nil, _ => True
  | .cons name type shape rest, record =>
    (∃ slot, record.slot? name = some slot ∧ ∀ a ∈ type.get? slot, shape.IsComplete a) ∧
      rest.IsComplete record

end

section Check

variable {α : Type} {p q : α → Bool}

theorem all_congr_of_mem {as : List α} (h : ∀ a ∈ as, p a = q a) : as.all p = as.all q := by
  rw [Bool.eq_iff_iff, List.all_eq_true, List.all_eq_true]
  exact forall₂_congr fun a ha ↦ by rw [h a ha]

theorem optionAny_congr_of_mem {v : Option α} (h : ∀ a ∈ v, p a = q a) : v.any p = v.any q := by
  cases v with
  | none => rfl
  | some a => exact h a rfl

theorem optionAll_congr_of_mem {v : Option α} (h : ∀ a ∈ v, p a = q a) : v.all p = v.all q := by
  cases v with
  | none => rfl
  | some a => exact h a rfl

end Check

mutual

theorem Shape.check_strip : {α : Type} → (s : Shape σ α) → (a : α) → s.IsComplete a →
    s.strip.check a = s.check a
  | _, .string _, _, _ | _, .number _, _, _ | _, .integer _, _, _ | _, .boolean _, _, _ => rfl
  | _, .datetime, _, _ | _, .regex _, _, _ => rfl
  | _, .optional inner, _, h => optionAll_congr_of_mem fun a ha ↦ inner.check_strip a (h a ha)
  | _, .nullable inner, _, h => optionAll_congr_of_mem fun a ha ↦ inner.check_strip a (h a ha)
  | _, .orDefault inner _, a, h => inner.check_strip a h
  | _, .transform inner _, a, h => inner.check_strip a h
  | _, .andThen inner _, a, h => inner.check_strip a h
  | _, .recover inner _, a, h => inner.check_strip a h
  | _, .refine inner accepts _, a, h => by
    rw [Shape.strip, Shape.check, Shape.check]
    cases haccepts : accepts a with
    | false => rfl
    | true => exact inner.check_strip a (h haccepts)
  | _, .map inner _ _, _, h => optionAny_congr_of_mem fun a ha ↦ inner.check_strip a (h a ha)
  | _, .tryMap inner _ _, _, h => optionAny_congr_of_mem fun a ha ↦ by
    rw [inner.check_strip a (h a ha)]
  | _, .union first second, a, h => by
    rw [Shape.strip, Shape.check, Shape.check, first.check_strip a h.1]
    cases hfirst : first.check a with
    | true => rfl
    | false => exact second.check_strip a (h.2 hfirst)
  | _, .array element, _, h => all_congr_of_mem fun a ha ↦ element.check_strip a (h a ha)
  | _, .set _ element, _, h => all_congr_of_mem fun a ha ↦ element.check_strip a (h a ha)
  | _, .distinct _ element, values, h =>
    congrArg (Parts.areDistinct values && ·)
      (all_congr_of_mem fun a ha ↦ element.check_strip a (h a ha))
  | _, .indexed value, _, h => all_congr_of_mem fun a ha ↦ value.check_strip a.2 (h a ha)
  | _, .mapOf _ key value, _, h => all_congr_of_mem fun a ha ↦ by
    rw [key.check_strip a.1 (h a ha).1, value.check_strip a.2 (h a ha).2]
  | _, .tuple items, values, h => items.check_strip values h
  | _, .sequence items, x, h => by
    cases x with
    | array values =>
      have hitems := items.check_strip values (h values rfl)
      simp only [Shape.strip, Shape.check, items.size_strip, hitems]
    | _ => rfl
  | _, .object fields _, record, h => fields.check_strip record h
  | _, .construct fields _ _ takeApart, a, h => fields.check_strip (takeApart a) h

theorem Shapes.check_strip : {αs : List Type} → (items : Shapes σ αs) → (values : Tuple αs) →
    items.IsComplete values → items.strip.check values = items.check values
  | _, .nil, _, _ => rfl
  | _, .cons first rest, (a, values), h => by
    rw [Shapes.strip, Shapes.check, Shapes.check, first.check_strip a h.1,
      rest.check_strip values h.2]

theorem JsonShapes.check_strip : (items : JsonShapes σ) → (values : List Json) →
    items.IsComplete values → items.strip.check values = items.check values
  | .nil, _, _ => rfl
  | .cons _ _, [], _ => rfl
  | .cons first rest, a :: values, h => by
    rw [JsonShapes.strip, JsonShapes.check, JsonShapes.check, first.check_strip a h.1,
      rest.check_strip values h.2]

/-- No field is asked to read an absent value, which is where a fallback would be heard. -/
theorem Fields.check_strip : (fields : Fields σ) → (record : Record σ) →
    fields.IsComplete record → fields.strip.check record = fields.check record
  | .nil, _, _ => rfl
  | .cons name type shape rest, record, ⟨⟨slot, hslot, hvalue⟩, hrest⟩ => by
    have hshape : (type.get? slot).any shape.strip.check = (type.get? slot).any shape.check :=
      optionAny_congr_of_mem fun a ha ↦ shape.check_strip a (hvalue a ha)
    rw [Fields.strip, Fields.check, Fields.check, hslot, rest.check_strip record hrest]
    exact congrArg (· && rest.check record) hshape

end

/-! ## Schemas -/

namespace Schema

/-- The schema without the fallbacks and functions in it. -/
def strip {α : Type} (s : Schema σ α) : Schema σ α :=
  { s with shape := s.shape.strip }

/-- Fallbacks have no part in writing a value, alone or in a field, and none in checking it, where
every record that is reached holds all its fields. -/
theorem strip_agrees {α : Type} (s : Schema σ α) (v : α) :
    s.serialize v = s.strip.serialize v ∧ s.serializeField v = s.strip.serializeField v ∧
      (s.shape.IsComplete v → s.validate v = s.strip.validate v) :=
  ⟨congrArg (fun w ↦ w.serialize v) s.shape.writer_strip.symm,
    congrArg (fun w ↦ w.serializeField v) s.shape.writer_strip.symm,
    fun h ↦ (s.shape.check_strip v h).symm⟩

/-- Lists of sizes, which must be positive, and of spare parts.  What is wrong is replaced. -/
def lenientSchema : Schema (List Int64) (Record (List Int64)) :=
  let size := (integer.refine (fun i ↦ 0 < i) "must be positive").orDefault 1
  let sizes := size.array.recover fun _ ↦ .ok []
  let spares := integer.array.transform fun _ ↦ .ok [7]
  ⟨.object (.cons "sizes" (.self _ "Vec<i64>") sizes.shape
    (.cons "spares" (.self _ "Vec<i64>") spares.shape .nil)) false, none⟩

def zeroSized : Record (List Int64) :=
  ⟨[("sizes", [2, 0]), ("spares", [])]⟩

theorem zeroSized_isComplete : lenientSchema.shape.IsComplete zeroSized :=
  ⟨⟨[2, 0], rfl, fun _ _ _ _ _ ↦ trivial⟩, ⟨[], rfl, fun _ _ _ _ ↦ trivial⟩, trivial⟩

/-- The size 0 is replaced when it is read.  It is not valid, and it is written as it is. -/
theorem lenientSchema_agrees :
    lenientSchema.shape.IsComplete zeroSized ∧
      lenientSchema.serialize zeroSized = lenientSchema.strip.serialize zeroSized ∧
      lenientSchema.serializeField zeroSized = lenientSchema.strip.serializeField zeroSized ∧
      lenientSchema.validate zeroSized = lenientSchema.strip.validate zeroSized ∧
      lenientSchema.validate zeroSized = false ∧
      ∃ w, lenientSchema.serialize zeroSized = .ok w ∧
        lenientSchema.parse w = .ok ⟨[("sizes", [2, 1]), ("spares", [7])]⟩ := by
  obtain ⟨hwrite, hfield, hvalid⟩ := strip_agrees lenientSchema zeroSized
  exact ⟨zeroSized_isComplete, hwrite, hfield, hvalid zeroSized_isComplete, rfl, _, rfl, rfl⟩

-- A record without its fields is valid, but only because of the fallbacks.
example : lenientSchema.validate .empty = true ∧ lenientSchema.strip.validate .empty = false :=
  ⟨rfl, rfl⟩

end Schema

end TwoWaySchema
