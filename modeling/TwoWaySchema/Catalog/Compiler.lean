import TwoWaySchema.Catalog.Descriptor
import TwoWaySchema.Catalog.Error
import TwoWaySchema.Time.Rfc3339

/-!
# Compiling descriptors

A descriptor compiles to a schema whose values are JSON values again, normalised.  References are
resolved by a function that compilation is given; `compileNamed` is the one that reads a catalog.
It remembers each schema that it has compiled and the names that it is in the middle of, so a name
is compiled once and a reference back into the middle is a cycle.
-/

namespace TwoWaySchema

/-- A schema from JSON values to JSON values; its records hold JSON values. -/
abbrev JsonSchema : Type 1 := Schema Json Json

/-- What is known in the course of compiling a catalog. -/
structure CompilerState where
  compiled : List (String × JsonSchema)
  /-- The names whose descriptors are being compiled, the outermost first. -/
  inProgress : List String

namespace CompilerState

def empty : CompilerState := ⟨[], []⟩

def enter (s : CompilerState) (name : String) : CompilerState :=
  { s with inProgress := s.inProgress ++ [name] }

def leave (s : CompilerState) : CompilerState :=
  { s with inProgress := s.inProgress.dropLast }

def remember (s : CompilerState) (name : String) (schema : JsonSchema) : CompilerState :=
  { s with compiled := (name, schema) :: s.compiled }

end CompilerState

/-- A computation that works on the state and may fail; the state survives a failure. -/
def Compile (α : Type 1) : Type 1 :=
  CompilerState → Except CatalogError α × CompilerState

namespace Compile

variable {α β : Type 1}

def fail (error : CatalogError) : Compile α := fun state ↦ (.error error, state)

def andThen (x : Compile α) (f : α → Compile β) : Compile β := fun state ↦
  match x state with
  | (.ok a, state) => f a state
  | (.error error, state) => (.error error, state)

instance : Monad Compile where
  pure a := fun state ↦ (.ok a, state)
  bind := andThen

end Compile

variable {ρ : Type} [Regex.Engine ρ]

namespace Descriptor

/-! ## The schemas of single descriptors -/

def stringSchema (coerces : Bool) (pattern : Option ρ) : JsonSchema :=
  let text := if coerces then Schema.string.coerce else Schema.string
  let text :=
    match pattern with
    | some pattern => text.matching pattern
    | none => text
  text.map .string Json.toText?

/-- Numbers in the form that is a whole number where it can be. -/
def numberSchema (coerces : Bool) : JsonSchema :=
  (if coerces then Schema.number.coerce else Schema.number).tryMap
    (fun x ↦
      match jsonNumber? x with
      | some n => .ok (.number n)
      | none => .error (x.plainText ++ " is not a finite number"))
    Json.toDouble?

def integerSchema (coerces : Bool) : JsonSchema :=
  (if coerces then Schema.integer.coerce else Schema.integer).map
    (fun i ↦ .number (.ofInt64 i)) Json.toInt64?

def booleanSchema (coerces : Bool) : JsonSchema :=
  (if coerces then Schema.boolean.coerce else Schema.boolean).map .bool Json.toBool?

/-- Moments in the form of their texts. -/
def datetimeSchema : JsonSchema :=
  Schema.datetime.map (fun t ↦ .string (Rfc3339.text t)) fun x ↦
    x.toText?.bind fun text ↦ (Rfc3339.ofText? text).toOption

def arraySchema (items : JsonSchema) : JsonSchema :=
  items.array.map .array Json.toItems?

def setSchema (items : JsonSchema) : JsonSchema :=
  items.distinct.map .array Json.toItems?

def indexedSchema (values : JsonSchema) : JsonSchema :=
  values.indexed.map (fun entries ↦ .ofMembers entries.entries) fun x ↦
    x.toMembers?.map SortedMap.ofList

/-- Null is the JSON form of no value. -/
def someUnlessNull (x : Json) : Option (Option Json) :=
  some (if x.isNull then none else some x)

def optionalSchema (inner : JsonSchema) : JsonSchema :=
  inner.optional.map (·.getD .null) someUnlessNull

def nullableSchema (inner : JsonSchema) : JsonSchema :=
  inner.nullable.map (·.getD .null) someUnlessNull

/-- The slots of the records behind JSON objects. -/
def slot : SlotType Json Json := .self Json "JSON"

def recordOfMembers (members : List (String × Json)) : Record Json :=
  members.foldl (fun record member ↦ record.insert slot member.1 member.2) .empty

def objectSchema (fields : List (String × JsonSchema)) (denyUnknown : Bool) :
    Except BuildError JsonSchema :=
  let builder : ObjectBuilder Json :=
    fields.foldl (fun b field ↦ b.field field.1 slot field.2) .empty
  (if denyUnknown then builder.denyUnknownFields else builder).build.map fun schema ↦
    schema.map (fun record ↦ .ofMembers record.fields) fun x ↦
      x.toMembers?.map recordOfMembers

/-- The schema that tries its alternatives from left to right. -/
def unionSchema (first : JsonSchema) (others : List JsonSchema) : JsonSchema :=
  others.foldl Schema.or first

/-! ## Descriptors in general -/

def indexedPath (path part : String) (index : Nat) : String :=
  path ++ "." ++ part ++ "[" ++ toString index ++ "]"

variable (resolve : String → Compile JsonSchema)

mutual

/-- Compiles a descriptor; `path` is where it stands. -/
def compile (path : String) : Descriptor → Compile JsonSchema
  | string coerces none => pure (stringSchema coerces none)
  | string coerces (some pattern) =>
    match Regex.Engine.compile pattern with
    | .ok regex => pure (stringSchema coerces (some regex))
    | .error message => .fail (.invalidDescriptor path (.pattern message))
  | number coerces => pure (numberSchema coerces)
  | integer coerces => pure (integerSchema coerces)
  | boolean coerces => pure (booleanSchema coerces)
  | datetime => pure datetimeSchema
  | array items => do return arraySchema (← compile (path ++ ".items") items)
  | set items => do return setSchema (← compile (path ++ ".items") items)
  | tuple [] => .fail (.invalidDescriptor path .emptyTuple)
  | tuple (first :: rest) => do
    let firstItem ← compile (indexedPath path "items" 0) first
    return .sequence (firstItem :: (← compileItems path "items" 1 rest))
  | object fields denyUnknown => do
    match objectSchema (← compileFields path fields) denyUnknown with
    | .ok schema => return schema
    | .error error => .fail (.invalidDescriptor path (.fields error))
  | indexed values => do return indexedSchema (← compile (path ++ ".values") values)
  | optional inner => do return optionalSchema (← compile (path ++ ".inner") inner)
  | nullable inner => do return nullableSchema (← compile (path ++ ".inner") inner)
  | orDefault inner value => do
    let schema ← compile (path ++ ".inner") inner
    match schema.parse value with
    | .ok value => return schema.orDefault value
    | .error failure => .fail (.invalidDescriptor path (.defaultValue failure))
  | union [] => .fail (.invalidDescriptor path .emptyUnion)
  | union (first :: rest) => do
    let firstSchema ← compile (indexedPath path "any_of" 0) first
    return unionSchema firstSchema (← compileItems path "any_of" 1 rest)
  | reference name => resolve name

/-- Compiles the descriptors from a position on, in order. -/
def compileItems (path part : String) (index : Nat) : List Descriptor → Compile (List JsonSchema)
  | [] => pure []
  | item :: rest => do
    let schema ← compile (indexedPath path part index) item
    return schema :: (← compileItems path part (index + 1) rest)

def compileFields (path : String) :
    List (String × Descriptor) → Compile (List (String × JsonSchema))
  | [] => pure []
  | (name, item) :: rest => do
    let schema ← compile (path ++ "." ++ name) item
    return (name, schema) :: (← compileFields path rest)

end

end Descriptor

/-! ## References -/

/-- Compiles one descriptor under its name, which is in progress meanwhile and known afterwards. -/
def Descriptor.compileUnder (name : String) (d : Descriptor)
    (resolve : String → Compile JsonSchema) : Compile JsonSchema := fun state ↦
  match d.compile resolve name (state.enter name) with
  | (.ok schema, state) => (.ok schema, state.leave.remember name schema)
  | (.error error, state) => (.error error, state.leave)

/-- The entries under other names. -/
def entriesBesides {α : Type} (name : String) (entries : List (String × α)) : List (String × α) :=
  entries.filter fun entry ↦ entry.1 != name

theorem length_entriesBesides_lt {α : Type} {name : String} {entries : List (String × α)} {a : α}
    (h : entries.lookup name = some a) : (entriesBesides name entries).length < entries.length := by
  induction entries with
  | nil => simp at h
  | cons entry rest ih =>
    obtain ⟨key, b⟩ := entry
    by_cases hk : key = name
    · subst hk
      simpa [entriesBesides] using Nat.lt_succ_of_le (List.length_filter_le _ rest)
    · have hne : (name == key) = false := by simpa using Ne.symm hk
      have := ih (by simpa [List.lookup_cons, hne] using h)
      simpa [entriesBesides, hk] using this

/-- Compiles the schema of a name.  The descriptors that are available are those of the names that
are not in progress, so every reference leaves fewer of them. -/
def compileNamed (available : List (String × Descriptor)) (name : String) : Compile JsonSchema :=
  fun state ↦
    match state.compiled.lookup name with
    | some schema => (.ok schema, state)
    | none =>
      if state.inProgress.contains name then
        (.error (.referenceCycle (state.inProgress ++ [name])), state)
      else
        match _h : available.lookup name with
        | none => (.error (.unknownSchema name), state)
        | some d =>
          d.compileUnder name (compileNamed (entriesBesides name available)) state
termination_by available.length
decreasing_by exact length_entriesBesides_lt _h

/-- Compiles the schemas of several names, in order. -/
def compileAll (available : List (String × Descriptor)) :
    (names : List String) → Compile (List (String × JsonSchema))
  | [] => pure []
  | name :: rest => do
    let schema ← compileNamed available name
    return (name, schema) :: (← compileAll available rest)

end TwoWaySchema
