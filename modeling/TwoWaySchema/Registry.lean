import TwoWaySchema.Schema

/-!
# Registries

A registry keeps one schema for each type.  Types are told apart by tags: a `TypeFamily` says which
type a tag stands for and what it is called.  The entries hold schemas of any type, each of which
knows its own, so a schema that was found under a tag is still asked whether it is one of the type
that the tag stands for.
-/

namespace TwoWaySchema

structure TypeFamily (τ : Type) where
  Carrier : τ → Type
  name : τ → String

inductive RegistryError where
  | unregisteredType (name : String)
  | serialize (source : SerializeError)
deriving Repr

def RegistryError.message : RegistryError → String
  | unregisteredType name => "no schema registered for type " ++ name
  | serialize source => "serialize error: " ++ source.message

/-- A schema of one of the types, together with the tag of that type. -/
structure AnySchema {τ : Type} (family : TypeFamily τ) (σ : Type) where
  tag : τ
  schema : Schema σ (family.Carrier tag)

/-- The schema, if it is one of the type that the tag stands for. -/
def AnySchema.downcast? {τ σ : Type} {family : TypeFamily τ} [DecidableEq τ]
    (s : AnySchema family σ) (t : τ) : Option (Schema σ (family.Carrier t)) :=
  if h : s.tag = t then some (h ▸ s.schema) else none

/-- What is kept for a type: what the type is called, and the schema. -/
structure RegistryEntry {τ : Type} (family : TypeFamily τ) (σ : Type) where
  typeName : String
  schema : AnySchema family σ

structure Registry {τ : Type} (family : TypeFamily τ) (σ : Type) where
  entries : List (τ × RegistryEntry family σ)

namespace Registry

variable {τ σ : Type} {family : TypeFamily τ} [DecidableEq τ]

def empty : Registry family σ := ⟨[]⟩

def stored? (r : Registry family σ) (t : τ) : Option (RegistryEntry family σ) :=
  r.entries.lookup t

/-- The schema in the entry of a tag, if it is one of the type that the tag stands for. -/
def find? (r : Registry family σ) (t : τ) : Option (Schema σ (family.Carrier t)) :=
  (r.stored? t).bind fun entry ↦ entry.schema.downcast? t

/-- Stores a schema for a type; the schema that it replaces comes with the new registry. -/
def register (r : Registry family σ) (t : τ) (schema : Schema σ (family.Carrier t)) :
    Option (Schema σ (family.Carrier t)) × Registry family σ :=
  (r.find? t, ⟨storeEntry t ⟨family.name t, ⟨t, schema⟩⟩ r.entries⟩)

def schemaFor (r : Registry family σ) (t : τ) :
    Except RegistryError (Schema σ (family.Carrier t)) :=
  match r.find? t with
  | some schema => .ok schema
  | none => .error (.unregisteredType (family.name t))

def contains (r : Registry family σ) (t : τ) : Bool :=
  r.entries.any fun entry ↦ entry.1 = t

def size (r : Registry family σ) : Nat :=
  r.entries.length

/-- The names of the registered types in ascending order. -/
def typeNames (r : Registry family σ) : List String :=
  (r.entries.map fun entry ↦ entry.2.typeName).mergeSort fun a b ↦ a ≤ b

def parse (r : Registry family σ) (t : τ) (raw : Json) :
    Except RegistryError (Outcome (family.Carrier t)) :=
  match r.schemaFor t with
  | .ok schema => .ok (schema.parse raw)
  | .error error => .error error

def serialize (r : Registry family σ) (t : τ) (value : family.Carrier t) :
    Except RegistryError Json :=
  match r.schemaFor t with
  | .ok schema => (schema.serialize value).mapError .serialize
  | .error error => .error error

def validate (r : Registry family σ) (t : τ) (value : family.Carrier t) :
    Except RegistryError Bool :=
  match r.schemaFor t with
  | .ok schema => .ok (schema.validate value)
  | .error error => .error error

/-- The text that stands for a registry in a debugging session. -/
def debugText (r : Registry family σ) : String :=
  "Registry \x7b types: [" ++ ", ".intercalate (r.typeNames.map Text.quote) ++ "] \x7d"

end Registry

end TwoWaySchema
