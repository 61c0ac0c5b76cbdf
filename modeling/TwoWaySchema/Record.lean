import TwoWaySchema.Text.Quoted

/-!
# Records

A record is an ordered list of named slots.  What a slot can hold is a type of the user's choice;
a `SlotType` says how the values of one type are put into slots and recognised there.  Storing
under a name that is in use replaces the slot where it stands, so names stay distinct and in the
order in which they came.
-/

namespace TwoWaySchema

universe u

/-- Replaces the first value under this key, or adds one at the end. -/
def storeEntry {κ : Type} {ν : Type u} [DecidableEq κ] (key : κ) (value : ν) :
    List (κ × ν) → List (κ × ν)
  | [] => [(key, value)]
  | (other, stored) :: rest =>
    if other = key then (other, value) :: rest else (other, stored) :: storeEntry key value rest

/-- How the slots of type `σ` hold the values of type `α`. -/
structure SlotType (σ α : Type) where
  name : String
  put : α → σ
  get? : σ → Option α
  get?_eq_some_iff : ∀ slot value, get? slot = some value ↔ slot = put value

namespace SlotType

/-- A slot type whose slots hold nothing else. -/
def self (σ : Type) (name : String) : SlotType σ σ :=
  ⟨name, id, some, fun slot value ↦ by simp⟩

/-- Whether a slot holds a value of this type. -/
def holds {σ α : Type} (type : SlotType σ α) (slot : σ) : Bool :=
  (type.get? slot).isSome

@[simp]
theorem get?_put {σ α : Type} (type : SlotType σ α) (value : α) :
    type.get? (type.put value) = some value :=
  (type.get?_eq_some_iff _ _).2 rfl

end SlotType

inductive RecordError where
  | missingField (name : String)
  | wrongType (field expected : String)
deriving DecidableEq, Repr

def RecordError.message : RecordError → String
  | missingField name => "record has no field '" ++ name ++ "'"
  | wrongType field expected =>
    "field '" ++ field ++ "' does not hold a value of type " ++ expected

structure Record (σ : Type) where
  fields : List (String × σ)
deriving Repr

namespace Record

variable {σ α : Type}

def empty : Record σ := ⟨[]⟩

instance : Inhabited (Record σ) := ⟨empty⟩

def names (r : Record σ) : List String :=
  r.fields.map Prod.fst

def size (r : Record σ) : Nat :=
  r.fields.length

def contains (r : Record σ) (name : String) : Bool :=
  r.names.contains name

def store (r : Record σ) (name : String) (slot : σ) : Record σ :=
  ⟨storeEntry name slot r.fields⟩

def slot? (r : Record σ) (name : String) : Option σ :=
  r.fields.lookup name

def insert (type : SlotType σ α) (r : Record σ) (name : String) (value : α) : Record σ :=
  r.store name (type.put value)

/-- The value stored under a name, if it is one of this type. -/
def get? (type : SlotType σ α) (r : Record σ) (name : String) : Option α :=
  (r.slot? name).bind type.get?

/-- Removes the first slot with this name. -/
def eraseFrom (name : String) : List (String × σ) → List (String × σ)
  | [] => []
  | (other, stored) :: rest =>
    if other = name then rest else (other, stored) :: eraseFrom name rest

def erase (r : Record σ) (name : String) : Record σ :=
  ⟨eraseFrom name r.fields⟩

/-- Takes a value out of the record; a record without such a value of this type stays as it is.
The slot is looked at while it stands in its place, removed, and only then converted. -/
def take (type : SlotType σ α) (r : Record σ) (name : String) : Except RecordError α × Record σ :=
  match r.slot? name with
  | none => (.error (.missingField name), r)
  | some slot =>
    if type.holds slot then
      match type.get? slot with
      | some value => (.ok value, r.erase name)
      | none => (.error (.wrongType name type.name), r.erase name)
    else (.error (.wrongType name type.name), r)

/-- The text that stands for a record in a debugging session. -/
def debugText (r : Record σ) : String :=
  "Record \x7b fields: [" ++ ", ".intercalate (r.names.map Text.quote) ++ "] \x7d"

def NamesDistinct (r : Record σ) : Prop :=
  r.names.Nodup

end Record

end TwoWaySchema
