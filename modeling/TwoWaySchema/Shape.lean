import TwoWaySchema.Failure
import TwoWaySchema.Record
import TwoWaySchema.Regex.Engine
import TwoWaySchema.Time.Timestamp

/-!
# Shapes

A shape is the description of a type of values and of their untyped form.  It is data: reading,
writing, checking and describing are functions on shapes, each a recursion over how the shape was
put together.  `Shape σ α` describes values of type `α`; records inside it have slots of type `σ`.
-/

namespace TwoWaySchema

/-- Tuples with components of these types. -/
def Tuple : List Type → Type
  | [] => Unit
  | α :: αs => α × Tuple αs

mutual

inductive Shape (σ : Type) : Type → Type 1 where
  | string (coerces : Bool) : Shape σ String
  | number (coerces : Bool) : Shape σ Double
  | integer (coerces : Bool) : Shape σ Int64
  | boolean (coerces : Bool) : Shape σ Bool
  | datetime : Shape σ Timestamp
  /-- Regular expressions of any engine. -/
  | regex {ρ : Type} (engine : Regex.Engine ρ) : Shape σ ρ
  /-- A missing value is `none`. -/
  | optional {α : Type} (inner : Shape σ α) : Shape σ (Option α)
  /-- An explicit null is `none`. -/
  | nullable {α : Type} (inner : Shape σ α) : Shape σ (Option α)
  /-- The given value stands in for every failure. -/
  | orDefault {α : Type} (inner : Shape σ α) (value : α) : Shape σ α
  /-- The function has the last word on the outcome and sees the input too. -/
  | transform {α : Type} (inner : Shape σ α) (f : Outcome α → Option Json → Outcome α) : Shape σ α
  | andThen {α : Type} (inner : Shape σ α) (f : α → α) : Shape σ α
  | recover {α : Type} (inner : Shape σ α) (f : Failure → Outcome α) : Shape σ α
  | refine {α : Type} (inner : Shape σ α) (accepts : α → Bool) (message : String) : Shape σ α
  | map {α β : Type} (inner : Shape σ α) (forward : α → β) (backward : β → Option α) : Shape σ β
  | tryMap {α β : Type} (inner : Shape σ α) (forward : α → Except String β)
      (backward : β → Option α) : Shape σ β
  | union {α : Type} (first second : Shape σ α) : Shape σ α
  | array {α : Type} (element : Shape σ α) : Shape σ (List α)
  /-- A set whose elements are ordered. -/
  | set {α : Type} (order : Ord α) (element : Shape σ α) : Shape σ (SortedSet α)
  /-- A set whose elements keep the order in which they were first met. -/
  | distinct {α : Type} (equality : BEq α) (element : Shape σ α) : Shape σ (List α)
  | indexed {α : Type} (value : Shape σ α) : Shape σ (SortedMap String α)
  /-- A map with keys of any type, written as pairs. -/
  | mapOf {κ ν : Type} (order : Ord κ) (key : Shape σ κ) (value : Shape σ ν) :
      Shape σ (SortedMap κ ν)
  | tuple {αs : List Type} (items : Shapes σ αs) : Shape σ (Tuple αs)
  /-- A sequence of JSON values with a shape for each position. -/
  | sequence (items : JsonShapes σ) : Shape σ Json
  | object (fields : Fields σ) (denyUnknown : Bool) : Shape σ (Record σ)
  /-- Values of a type that is built from a record and taken apart into one. -/
  | construct {α : Type} (fields : Fields σ) (denyUnknown : Bool)
      (build : Record σ → Except RecordError α) (takeApart : α → Record σ) : Shape σ α

inductive Shapes (σ : Type) : List Type → Type 1 where
  | nil : Shapes σ []
  | cons {α : Type} {αs : List Type} (first : Shape σ α) (rest : Shapes σ αs) : Shapes σ (α :: αs)

inductive JsonShapes (σ : Type) : Type 1 where
  | nil : JsonShapes σ
  | cons (first : Shape σ Json) (rest : JsonShapes σ) : JsonShapes σ

/-- The fields of an object in declaration order, each with the type of its slot. -/
inductive Fields (σ : Type) : Type 1 where
  | nil : Fields σ
  | cons {α : Type} (name : String) (type : SlotType σ α) (shape : Shape σ α) (rest : Fields σ) :
      Fields σ

end

namespace Shapes

variable {σ : Type}

def size : {αs : List Type} → Shapes σ αs → Nat
  | _, nil => 0
  | _, cons _ rest => rest.size + 1

end Shapes

namespace JsonShapes

variable {σ : Type}

def size : JsonShapes σ → Nat
  | nil => 0
  | cons _ rest => rest.size + 1

def ofList : List (Shape σ Json) → JsonShapes σ
  | [] => nil
  | shape :: rest => cons shape (ofList rest)

end JsonShapes

namespace Fields

variable {σ : Type}

def names : Fields σ → List String
  | nil => []
  | cons name _ _ rest => name :: rest.names

def append : Fields σ → Fields σ → Fields σ
  | nil, others => others
  | cons name type shape rest, others => cons name type shape (rest.append others)

/-- The description of an object from the descriptions of its fields. -/
def enclose (described : List String) : String :=
  if described.isEmpty then "\x7b\x7d"
  else "\x7b " ++ ", ".intercalate described ++ " \x7d"

end Fields

end TwoWaySchema
