import TwoWaySchema.Catalog.Compiler
import TwoWaySchema.Proofs.Shape.Reading

/-!
# Scalars of catalogs

The schemas of text, numbers, whole numbers and truth values normalize: what they read is its own
untyped form, so writing it gives it back and reading it again changes nothing.  None of them reads
an absent value.  Timestamps are read to text and written as numbers, so they do not normalize.
-/

namespace TwoWaySchema

/-! ## Mapped schemas -/

section Shape

variable {σ α β : Type} {inner : Shape σ α} {input : Option Json}

theorem Schema.map_serialize_eq {s : Schema σ α} {forward : α → β} {backward : β → Option α}
    {b : β} :
    (s.map forward backward).serialize b =
      match backward b with
      | some a => s.serialize a
      | none => .error (.mismatch s.describe) := by
  cases h : backward b <;>
    simp only [Schema.serialize, Shape.serialize, Schema.map, Shape.writer, Writer.contramap,
      Schema.describe, Thunk.get, h]

theorem Schema.map_serializeField_eq {s : Schema σ α} {forward : α → β}
    {backward : β → Option α} {b : β} :
    (s.map forward backward).serializeField b =
      match backward b with
      | some a => s.serializeField a
      | none => .error (.mismatch s.describe) := by
  cases h : backward b <;>
    simp only [Schema.serializeField, Shape.serializeField, Schema.map, Shape.writer,
      Writer.contramap, Schema.describe, Thunk.get, h]

/-- What leaves nothing out leaves nothing out of a mapping either. -/
theorem Schema.map_serializeField_of_plain {s : Schema σ α} {forward : α → β}
    {backward : β → Option α} (h : ∀ a, s.serializeField a = (s.serialize a).map some) (b : β) :
    (s.map forward backward).serializeField b =
      ((s.map forward backward).serialize b).map some := by
  rw [Schema.map_serializeField_eq, Schema.map_serialize_eq]
  cases backward b with
  | some a => exact h a
  | none => rfl

end Shape

namespace Descriptor

variable {ρ : Type} [Regex.Engine ρ] {coerces : Bool} {pattern : Option ρ} {input : Option Json}
  {v w : Json}

/-! ## Reading -/

theorem stringSchema_parseInput :
    (stringSchema coerces none).parseInput input = (Leaf.readString coerces input).map .string := by
  cases coerces <;> rfl

theorem stringSchema_some_parseInput {regex : ρ} :
    (stringSchema coerces (some regex)).parseInput input =
      (Leaf.readString coerces input >>= fun text ↦
        if Regex.Engine.isMatch regex text then .ok text
        else .error (.single .invalid
          ("must match /" ++ Regex.Engine.pattern regex ++ "/"))).map .string := by
  cases coerces <;> exact congrArg _ Shape.parse_refine

theorem numberSchema_parseInput :
    (numberSchema coerces).parseInput input =
      Leaf.readNumber coerces input >>= fun x ↦ Outcome.ofMessage
        (match jsonNumber? x with
        | some n => .ok (.number n)
        | none => .error (x.plainText ++ " is not a finite number")) := by
  cases coerces <;> exact Shape.parse_tryMap

theorem integerSchema_parseInput :
    (integerSchema coerces).parseInput input =
      (Leaf.readInteger coerces input).map fun i ↦ .number (.ofInt64 i) := by
  cases coerces <;> rfl

theorem booleanSchema_parseInput :
    (booleanSchema coerces).parseInput input = (Leaf.readBoolean coerces input).map .bool := by
  cases coerces <;> rfl

theorem datetimeSchema_parseInput :
    datetimeSchema.parseInput input =
      (Leaf.readDatetime input).map fun t ↦ .string (Rfc3339.text t) := rfl

/-! ## Failures -/

theorem stringSchema_fits : ((stringSchema coerces pattern).parseInput input).Fits input := by
  cases pattern with
  | none =>
    rw [stringSchema_parseInput]
    exact Leaf.readString_fits.map _
  | some regex =>
    rw [stringSchema_some_parseInput]
    refine .map (.bind Leaf.readString_fits fun text htext ↦ ?_) _
    obtain ⟨x, hx, rfl, -⟩ := exists_of_requirePresent_bind htext
    split
    next => exact .ok
    next => exact .single (by decide) (not_isVacant_some.2 hx)

theorem numberSchema_fits : ((numberSchema coerces).parseInput input).Fits input := by
  rw [numberSchema_parseInput]
  refine .bind Leaf.readNumber_fits fun y hy ↦ ?_
  obtain ⟨x, hx, rfl, -⟩ := exists_of_requirePresent_bind hy
  cases jsonNumber? y with
  | some n => exact .ok
  | none => exact .single (by decide) (not_isVacant_some.2 hx)

theorem integerSchema_fits : ((integerSchema coerces).parseInput input).Fits input := by
  rw [integerSchema_parseInput]
  exact Leaf.readInteger_fits.map _

theorem booleanSchema_fits : ((booleanSchema coerces).parseInput input).Fits input := by
  rw [booleanSchema_parseInput]
  exact Leaf.readBoolean_fits.map _

theorem datetimeSchema_fits : (datetimeSchema.parseInput input).Fits input := by
  rw [datetimeSchema_parseInput]
  exact Leaf.readDatetime_fits.map _

theorem stringSchema_failsWhole :
    ((stringSchema coerces pattern).parseInput input).FailsWhole := by
  cases pattern with
  | none =>
    rw [stringSchema_parseInput]
    exact Leaf.readString_failsWhole.map _
  | some regex =>
    rw [stringSchema_some_parseInput]
    refine .map (.bind Leaf.readString_failsWhole fun text ↦ ?_) _
    split
    next => exact .ok
    next => exact .single

theorem numberSchema_failsWhole : ((numberSchema coerces).parseInput input).FailsWhole := by
  rw [numberSchema_parseInput]
  refine .bind Leaf.readNumber_failsWhole fun y ↦ ?_
  cases jsonNumber? y with
  | some n => exact .ok
  | none => exact .single

theorem integerSchema_failsWhole : ((integerSchema coerces).parseInput input).FailsWhole := by
  rw [integerSchema_parseInput]
  exact Leaf.readInteger_failsWhole.map _

theorem booleanSchema_failsWhole : ((booleanSchema coerces).parseInput input).FailsWhole := by
  rw [booleanSchema_parseInput]
  exact Leaf.readBoolean_failsWhole.map _

theorem datetimeSchema_failsWhole : (datetimeSchema.parseInput input).FailsWhole := by
  rw [datetimeSchema_parseInput]
  exact Leaf.readDatetime_failsWhole.map _

/-! ## Normal forms -/

/-- A schema that reads nothing but a value, and values that are their own untyped form. -/
structure IsNormalizing (s : JsonSchema) : Prop where
  absent : ∀ v, s.parseInput none ≠ .ok v
  normal : ∀ raw v, s.parse raw = .ok v → s.serialize v = .ok v ∧ s.parse v = .ok v
  plain : ∀ v, s.serializeField v = (s.serialize v).map some

theorem stringSchema_isNormalizing : IsNormalizing (stringSchema coerces pattern) where
  absent v h := by cases pattern <;> cases coerces <;> cases h
  plain v := by cases pattern <;> cases coerces <;> cases v <;> rfl
  normal raw v h := by
    have hread : ∀ text, Leaf.readString coerces (some (.string text)) = .ok text := fun _ ↦ rfl
    cases pattern with
    | none =>
      obtain ⟨text, -, rfl⟩ := map_eq_ok_iff.1 (stringSchema_parseInput.symm.trans h)
      refine ⟨by cases coerces <;> rfl, stringSchema_parseInput.trans ?_⟩
      rw [hread]
      rfl
    | some regex =>
      obtain ⟨text, htext, rfl⟩ := map_eq_ok_iff.1 (stringSchema_some_parseInput.symm.trans h)
      obtain ⟨text', -, hmatch⟩ := bind_eq_ok_iff.1 htext
      split at hmatch
      next haccepts =>
        cases hmatch
        refine ⟨by cases coerces <;> rfl, stringSchema_some_parseInput.trans ?_⟩
        rw [hread]
        exact congrArg _ (if_pos haccepts)
      next => cases hmatch

theorem numberSchema_isNormalizing : IsNormalizing (numberSchema coerces) where
  absent v h := by cases coerces <;> cases h
  plain v := by cases coerces <;> cases v <;> rfl
  normal raw v h := by
    obtain ⟨x, -, hx⟩ := bind_eq_ok_iff.1 (numberSchema_parseInput.symm.trans h)
    cases hform : jsonNumber? x with
    | none =>
      rw [hform] at hx
      cases hx
    | some n =>
      rw [hform] at hx
      cases hx
      have hnumber := jsonNumber?_toDouble hform
      constructor
      · have hwrite :
            (numberSchema coerces).serialize (.number n) = Leaf.writeNumber n.toDouble := by
          cases coerces <;> rfl
        rw [hwrite, Leaf.writeNumber, hnumber]
      · refine numberSchema_parseInput.trans ?_
        have hread : Leaf.readNumber coerces (some (.number n)) = .ok n.toDouble := rfl
        rw [hread]
        change Outcome.ofMessage (match jsonNumber? n.toDouble with
          | some n => _
          | none => _) = _
        rw [hnumber]
        rfl

theorem integerSchema_isNormalizing : IsNormalizing (integerSchema coerces) where
  absent v h := by cases coerces <;> cases h
  plain := Schema.map_serializeField_of_plain fun i ↦ by cases coerces <;> rfl
  normal raw v h := by
    obtain ⟨i, -, rfl⟩ := map_eq_ok_iff.1 (integerSchema_parseInput.symm.trans h)
    constructor
    · unfold integerSchema
      rw [Schema.map_serialize_eq, Json.toInt64?, Number.toInt64?_ofInt64]
      cases coerces <;> rfl
    · refine integerSchema_parseInput.trans ?_
      exact congrArg (Except.map _) (Leaf.readInteger_writeInteger i)

theorem booleanSchema_isNormalizing : IsNormalizing (booleanSchema coerces) where
  absent v h := by cases coerces <;> cases h
  plain v := by cases coerces <;> cases v <;> rfl
  normal raw v h := by
    obtain ⟨b, -, rfl⟩ := map_eq_ok_iff.1 (booleanSchema_parseInput.symm.trans h)
    refine ⟨by cases coerces <;> rfl, booleanSchema_parseInput.trans ?_⟩
    cases coerces <;> rfl

end Descriptor

end TwoWaySchema
