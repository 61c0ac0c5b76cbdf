import TwoWaySchema.Shape.Parse
import TwoWaySchema.Shape.Serialize

/-!
# Checking

`Shape.check` says whether a typed value meets every constraint of a shape.  Fallbacks play no
part: what a shape puts in the place of a failure is checked against the shape inside.  A scalar is
checked by writing it and reading the result.
-/

namespace TwoWaySchema

variable {σ : Type}

/-- Whether the written value can be read again. -/
def Shape.reparses {α : Type} (s : Shape σ α) (value : α) : Bool :=
  match s.serialize value with
  | .ok x => (s.parse (some x)).isOk
  | .error _ => false

mutual

def Shape.check : {α : Type} → Shape σ α → α → Bool
  | _, .string coerces, a => (Shape.string coerces : Shape σ _).reparses a
  | _, .number coerces, a => (Shape.number coerces : Shape σ _).reparses a
  | _, .integer coerces, a => (Shape.integer coerces : Shape σ _).reparses a
  | _, .boolean coerces, a => (Shape.boolean coerces : Shape σ _).reparses a
  | _, .datetime, a => (Shape.datetime : Shape σ _).reparses a
  | _, .regex engine, a => (Shape.regex engine : Shape σ _).reparses a
  | _, .optional inner, a => a.all inner.check
  | _, .nullable inner, a => a.all inner.check
  | _, .orDefault inner _, a => inner.check a
  | _, .transform inner _, a => inner.check a
  | _, .andThen inner _, a => inner.check a
  | _, .recover inner _, a => inner.check a
  | _, .refine inner accepts _, a => accepts a && inner.check a
  | _, .map inner _ backward, b => (backward b).any inner.check
  | _, .tryMap inner forward backward, b =>
    (backward b).any fun a ↦ inner.check a && (forward a).isOk
  | _, .union first second, a => first.check a || second.check a
  | _, .array element, values => values.all element.check
  | _, .set _ element, s => s.elements.all element.check
  | _, .distinct _ element, values => Parts.areDistinct values && values.all element.check
  | _, .indexed value, m => m.entries.all fun entry ↦ value.check entry.2
  | _, .mapOf _ key value, m => m.entries.all fun entry ↦ key.check entry.1 && value.check entry.2
  | _, .tuple items, values => items.check values
  | _, .sequence items, x =>
    match x with
    | .array values => values.length = items.size && items.check values
    | _ => false
  | _, .object fields _, record => fields.check record
  | _, .construct fields _ _ takeApart, a => fields.check (takeApart a)

def Shapes.check : {αs : List Type} → Shapes σ αs → Tuple αs → Bool
  | _, .nil, _ => true
  | _, .cons first rest, (a, values) => first.check a && rest.check values

def JsonShapes.check : JsonShapes σ → List Json → Bool
  | .cons first rest, a :: values => first.check a && rest.check values
  | _, _ => true

/-- A field that the record lacks is fine when its shape accepts an absent value. -/
def Fields.check : Fields σ → Record σ → Bool
  | .nil, _ => true
  | .cons name type shape rest, record =>
    (match record.slot? name with
      | some slot => (type.get? slot).any shape.check
      | none => (shape.parse none).isOk)
    && rest.check record

end

end TwoWaySchema
