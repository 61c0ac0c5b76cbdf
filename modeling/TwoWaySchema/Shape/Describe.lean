import TwoWaySchema.Shape

/-!
# Descriptions

A short text for each shape, `array<string>` or `{ name: string, age: number }`.  Error messages
name the expected shape by it.
-/

namespace TwoWaySchema

variable {σ : Type}

mutual

def Shape.describe : {α : Type} → Shape σ α → String
  | _, .string _ => "string"
  | _, .number _ => "number"
  | _, .integer _ => "integer"
  | _, .boolean _ => "boolean"
  | _, .datetime => "datetime"
  | _, .regex _ => "regex"
  | _, .optional inner => inner.describe ++ "?"
  | _, .nullable inner => inner.describe ++ " | null"
  | _, .orDefault inner _ => inner.describe
  | _, .transform inner _ => inner.describe
  | _, .andThen inner _ => inner.describe
  | _, .recover inner _ => inner.describe
  | _, .refine inner _ _ => inner.describe
  | _, .map inner _ _ => inner.describe
  | _, .tryMap inner _ _ => inner.describe
  | _, .union first second => first.describe ++ " | " ++ second.describe
  | _, .array element => "array<" ++ element.describe ++ ">"
  | _, .set _ element => "set<" ++ element.describe ++ ">"
  | _, .distinct _ element => "set<" ++ element.describe ++ ">"
  | _, .indexed value => "indexed<" ++ value.describe ++ ">"
  | _, .mapOf _ key value => "map<" ++ key.describe ++ ", " ++ value.describe ++ ">"
  | _, .tuple items => "[" ++ ", ".intercalate items.describe ++ "]"
  | _, .sequence items => "[" ++ ", ".intercalate items.describe ++ "]"
  | _, .object fields _ => Fields.enclose fields.describe
  | _, .construct fields _ _ _ => Fields.enclose fields.describe

def Shapes.describe : {αs : List Type} → Shapes σ αs → List String
  | _, .nil => []
  | _, .cons first rest => first.describe :: rest.describe

def JsonShapes.describe : JsonShapes σ → List String
  | .nil => []
  | .cons first rest => first.describe :: rest.describe

def Fields.describe : Fields σ → List String
  | .nil => []
  | .cons name _ shape rest => (name ++ ": " ++ shape.describe) :: rest.describe

end

end TwoWaySchema
