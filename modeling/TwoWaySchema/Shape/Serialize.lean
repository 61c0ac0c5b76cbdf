import TwoWaySchema.Shape.Describe
import TwoWaySchema.Shape.Leaf

/-!
# Serializing

Each shape has a writer, which turns typed values back into untyped data.  A writer has two sides:
a value on its own is always written, and a value in the position of a field may also be omitted.
The two differ only below `optional`, and through the shapes that pass the position on.  What only
an error or a second alternative needs is a thunk.
-/

namespace TwoWaySchema

structure Writer (α : Type) where
  serialize : α → Except SerializeError Json
  /-- The value in the position of a field; `none` omits the field. -/
  serializeField : α → Except SerializeError (Option Json)

namespace Writer

variable {α β : Type}

/-- A writer that never omits a field. -/
def plain (serialize : α → Except SerializeError Json) : Writer α :=
  ⟨serialize, fun a ↦ (serialize a).map some⟩

def optional (w : Writer α) : Writer (Option α) where
  serialize
    | some a => w.serialize a
    | none => .ok .null
  serializeField
    | some a => w.serializeField a
    | none => .ok none

def nullable (w : Writer α) : Writer (Option α) :=
  plain fun
    | some a => w.serialize a
    | none => .ok .null

/-- Writes what a value is mapped back to; a value that is not is of another shape. -/
def contramap (expected : Thunk String) (backward : β → Option α) (w : Writer α) : Writer β where
  serialize b :=
    match backward b with
    | some a => w.serialize a
    | none => .error (.mismatch expected.get)
  serializeField b :=
    match backward b with
    | some a => w.serializeField a
    | none => .error (.mismatch expected.get)

/-- The first result, or the second where the first is a mismatch. -/
def firstMatching {γ : Type} (expected : Thunk String) (first : Except SerializeError γ)
    (second : Thunk (Except SerializeError γ)) : Except SerializeError γ :=
  match first with
  | .ok x => .ok x
  | .error e =>
    if e.isMismatch then
      match second.get with
      | .ok x => .ok x
      | .error e => .error (if e.isMismatch then .noMatchingBranch expected.get else e)
    else .error e

def union (expected : Thunk String) (first : Writer α) (second : Thunk (Writer α)) : Writer α where
  serialize a := firstMatching expected (first.serialize a) (second.get.serialize a)
  serializeField a :=
    firstMatching expected (first.serializeField a) (second.get.serializeField a)

/-! ## Containers -/

/-- Writes elements, the first of which has the given index, and stops at the first error. -/
def elementsFrom (write : α → Except SerializeError Json) :
    (index : Nat) → List α → Except SerializeError (List Json)
  | _, [] => .ok []
  | i, a :: rest => do
    let x ← (write a).mapError (.index i)
    let xs ← elementsFrom write (i + 1) rest
    .ok (x :: xs)

def elements (w : Writer α) (values : List α) : Except SerializeError Json :=
  (elementsFrom w.serialize 0 values).map .array

def membersOf (write : α → Except SerializeError Json) :
    List (String × α) → Except SerializeError (List (String × Json))
  | [] => .ok []
  | (key, a) :: rest => do
    let x ← (write a).mapError (.key key)
    let xs ← membersOf write rest
    .ok ((key, x) :: xs)

/-- Writes the entries of a map as the members of an object. -/
def members (w : Writer α) (entries : List (String × α)) : Except SerializeError Json :=
  (membersOf w.serialize entries).map .ofMembers

/-- Writes entries as pairs, the first of which has the given index. -/
def pairsFrom {κ ν : Type} (key : Writer κ) (value : Writer ν) :
    (index : Nat) → List (κ × ν) → Except SerializeError (List Json)
  | _, [] => .ok []
  | i, (k, v) :: rest => do
    let k ← (key.serialize k).mapError fun e ↦ .index i (.index 0 e)
    let v ← (value.serialize v).mapError fun e ↦ .index i (.index 1 e)
    let pairs ← pairsFrom key value (i + 1) rest
    .ok (.array [k, v] :: pairs)

def pairs {κ ν : Type} (key : Writer κ) (value : Writer ν) (entries : List (κ × ν)) :
    Except SerializeError Json :=
  (pairsFrom key value 0 entries).map .array

/-- Writes a slot through the writer of the type that its field declares. -/
def slot {σ : Type} (type : SlotType σ α) (expected : Thunk String) (w : Writer α) (slot : σ) :
    Except SerializeError (Option Json) :=
  match type.get? slot with
  | some a => w.serializeField a
  | none => .error (.mismatch expected.get)

end Writer

variable {σ : Type}

mutual

def Shape.writer : {α : Type} → Shape σ α → Writer α
  | _, .string _ => .plain fun s ↦ .ok (.string s)
  | _, .number _ => .plain Leaf.writeNumber
  | _, .integer _ => .plain fun i ↦ .ok (Leaf.writeInteger i)
  | _, .boolean _ => .plain fun b ↦ .ok (.bool b)
  | _, .datetime => .plain fun t ↦ .ok (Leaf.writeDatetime t)
  | _, .regex engine => .plain fun r ↦ .ok (Leaf.writeRegex engine r)
  | _, .optional inner => .optional inner.writer
  | _, .nullable inner => .nullable inner.writer
  | _, .orDefault inner _ => inner.writer
  | _, .transform inner _ => inner.writer
  | _, .andThen inner _ => inner.writer
  | _, .recover inner _ => inner.writer
  | _, .refine inner _ _ => inner.writer
  | _, .map inner _ backward => .contramap inner.describe backward inner.writer
  | _, .tryMap inner _ backward => .contramap inner.describe backward inner.writer
  | _, .union first second =>
    .union (first.describe ++ " | " ++ second.describe) first.writer second.writer
  | _, .array element => .plain element.writer.elements
  | _, .set _ element => .plain fun s ↦ element.writer.elements s.elements
  | _, .distinct _ element => .plain element.writer.elements
  | _, .indexed value => .plain fun m ↦ value.writer.members m.entries
  | _, .mapOf _ key value => .plain fun m ↦ Writer.pairs key.writer value.writer m.entries
  | _, .tuple items => .plain fun values ↦ (items.serializeFrom 0 values).map .array
  | _, .sequence items =>
    .plain fun
      | .array values =>
        if values.length = items.size then (items.serializeFrom 0 values).map .array
        else .error (.mismatch ("[" ++ ", ".intercalate items.describe ++ "]"))
      | _ => .error (.mismatch ("[" ++ ", ".intercalate items.describe ++ "]"))
  | _, .object fields _ => .plain fun r ↦ (fields.serialize r).map .ofMembers
  | _, .construct fields _ _ takeApart =>
    .plain fun a ↦ (fields.serialize (takeApart a)).map .ofMembers

/-- Writes a tuple position by position, the first at the given index. -/
def Shapes.serializeFrom : {αs : List Type} → Shapes σ αs → (index : Nat) → Tuple αs →
    Except SerializeError (List Json)
  | _, .nil, _, _ => .ok []
  | _, .cons first rest, i, (a, values) => do
    let x ← (first.writer.serialize a).mapError (.index i)
    let xs ← rest.serializeFrom (i + 1) values
    .ok (x :: xs)

def JsonShapes.serializeFrom : JsonShapes σ → (index : Nat) → List Json →
    Except SerializeError (List Json)
  | .cons first rest, i, a :: values => do
    let x ← (first.writer.serialize a).mapError (.index i)
    let xs ← rest.serializeFrom (i + 1) values
    .ok (x :: xs)
  | _, _, _ => .ok []

/-- The members of a record's object: a field that the record lacks is left out. -/
def Fields.serialize : Fields σ → Record σ → Except SerializeError (List (String × Json))
  | .nil, _ => .ok []
  | .cons name type shape rest, record =>
    match record.slot? name with
    | none => rest.serialize record
    | some slot => do
      let x ← (Writer.slot type shape.describe shape.writer slot).mapError (.field name)
      let xs ← rest.serialize record
      .ok ((x.map (name, ·)).toList ++ xs)

end

namespace Shape

variable {α : Type}

/-- Writes a typed value. -/
def serialize (s : Shape σ α) (value : α) : Except SerializeError Json :=
  s.writer.serialize value

/-- Writes a typed value in the position of a field; `none` omits the field. -/
def serializeField (s : Shape σ α) (value : α) : Except SerializeError (Option Json) :=
  s.writer.serializeField value

end Shape

end TwoWaySchema
