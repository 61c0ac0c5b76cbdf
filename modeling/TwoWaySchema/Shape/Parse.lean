import TwoWaySchema.Shape.Describe
import TwoWaySchema.Shape.Leaf
import TwoWaySchema.Shape.Parts

/-!
# Parsing

`Shape.parse` reads untyped data, which may be absent, to a typed value or to a failure that lists
every error found.
-/

namespace TwoWaySchema

variable {σ : Type}

mutual

def Shape.parse : {α : Type} → Shape σ α → Option Json → Outcome α
  | _, .string coerces, input => Leaf.readString coerces input
  | _, .number coerces, input => Leaf.readNumber coerces input
  | _, .integer coerces, input => Leaf.readInteger coerces input
  | _, .boolean coerces, input => Leaf.readBoolean coerces input
  | _, .datetime, input => Leaf.readDatetime input
  | _, .regex engine, input => Leaf.readRegex engine input
  | _, .optional inner, input =>
    match inner.parse input with
    | .ok a => .ok (some a)
    | .error failure => if failure.isMissing then .ok none else .error failure
  | _, .nullable inner, input =>
    match input with
    | some .null => .ok none
    | _ => (inner.parse input).map some
  | _, .orDefault inner value, input =>
    match inner.parse input with
    | .ok a => .ok a
    | .error _ => .ok value
  | _, .transform inner f, input => f ((inner.parse input).withInput input) input
  | _, .andThen inner f, input => (inner.parse input).map f
  | _, .recover inner f, input =>
    match inner.parse input with
    | .ok a => .ok a
    | .error failure => f (failure.withInput input)
  | _, .refine inner accepts message, input =>
    match inner.parse input with
    | .ok a => if accepts a then .ok a else .error (.single .invalid message)
    | .error failure => .error failure
  | _, .map inner forward _, input => (inner.parse input).map forward
  | _, .tryMap inner forward _, input =>
    match inner.parse input with
    | .ok a => Outcome.ofMessage (forward a)
    | .error failure => .error failure
  | _, .union first second, input =>
    Parts.readEither (first.describe ++ " | " ++ second.describe) (first.parse input)
      (second.parse input)
  | _, .array element, input => do
    Parts.readElements (fun x ↦ element.parse (some x)) (← Parts.requireArray input)
  | _, .set _ element, input => do
    let values ← Parts.readElements (fun x ↦ element.parse (some x)) (← Parts.requireArray input)
    .ok (.ofList values)
  | _, .distinct _ element, input => do
    let values ← Parts.readElements (fun x ↦ element.parse (some x)) (← Parts.requireArray input)
    .ok (Parts.dropRepeated values)
  | _, .indexed value, input => do
    Parts.readMembers (fun x ↦ value.parse (some x)) (← Parts.requireObject input)
  | _, .mapOf _ key value, input => do
    Parts.readPairs (fun x ↦ key.parse (some x)) (fun x ↦ value.parse (some x))
      (← Parts.requireArray input)
  | _, .tuple items, input => do
    let raw ← Parts.requireLength items.size input
    match items.parseFrom 0 raw with
    | (_, some values) => .ok values
    | (errors, none) => .error ⟨errors, none⟩
  | _, .sequence items, input => do
    let raw ← Parts.requireLength items.size input
    (Outcome.collect (items.parseFrom 0 raw)).map Json.array
  | _, .object fields denyUnknown, input =>
    Parts.readObject fields.names denyUnknown fields.parse input
  | _, .construct fields denyUnknown build _, input => do
    let record ← Parts.readObject fields.names denyUnknown fields.parse input
    Outcome.ofMessage ((build record).mapError RecordError.message)

/-- Reads items position by position, the first of them at the given index: the errors found, and
the tuple if every position could be read. -/
def Shapes.parseFrom : {αs : List Type} → Shapes σ αs → (index : Nat) → List Json →
    List ErrorEntry × Option (Tuple αs)
  | _, .nil, _, _ => ([], some ())
  | _, .cons _ _, _, [] => ([], none)
  | _, .cons first rest, i, x :: items =>
    let (errors, values) := rest.parseFrom (i + 1) items
    match (first.parse (some x)).within (.index i) with
    | .ok a => (errors, values.map (a, ·))
    | .error failure => (failure.errors ++ errors, none)

/-- The outcomes of the items, position by position. -/
def JsonShapes.parseFrom : JsonShapes σ → (index : Nat) → List Json → List (Outcome Json)
  | .cons first rest, i, x :: items =>
    (first.parse (some x)).within (.index i) :: rest.parseFrom (i + 1) items
  | _, _, _ => []

/-- The outcomes of the fields, in declaration order. -/
def Fields.parse : Fields σ → List (String × Json) → List (String × Outcome σ)
  | .nil, _ => []
  | .cons name type shape rest, members =>
    (name, Outcome.within (.key name) ((shape.parse (members.lookup name)).map type.put))
      :: rest.parse members

end

end TwoWaySchema
