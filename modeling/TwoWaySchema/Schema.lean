import TwoWaySchema.Shape.Check
import TwoWaySchema.Shape.Coerce

/-!
# Schemas

A schema is a shape with an optional help text.  Every combinator gives a new schema; those that
refine a schema keep its help text, and containers start without one.
-/

namespace TwoWaySchema

structure Schema (σ α : Type) where
  shape : Shape σ α
  help : Option String := none

namespace Schema

variable {σ α β : Type}

/-! ## Using a schema -/

/-- Reads a value that is there. -/
def parse (s : Schema σ α) (raw : Json) : Outcome α :=
  s.shape.parse (some raw)

/-- Reads a value that may be absent. -/
def parseInput (s : Schema σ α) (input : Option Json) : Outcome α :=
  s.shape.parse input

def serialize (s : Schema σ α) (value : α) : Except SerializeError Json :=
  s.shape.serialize value

/-- Writes a value in the position of a field; `none` omits the field. -/
def serializeField (s : Schema σ α) (value : α) : Except SerializeError (Option Json) :=
  s.shape.serializeField value

/-- Whether a value meets every constraint of the schema; fallbacks do not count. -/
def validate (s : Schema σ α) (value : α) : Bool :=
  s.shape.check value

def describe (s : Schema σ α) : String :=
  s.shape.describe

def withHelp (s : Schema σ α) (text : String) : Schema σ α :=
  { s with help := some text }

/-- The text that stands for a schema in a debugging session. -/
def debugText (s : Schema σ α) : String :=
  let help :=
    match s.help with
    | some text => "Some(" ++ Text.quote text ++ ")"
    | none => "None"
  "Schema \x7b shape: " ++ Text.quote s.describe ++ ", help: " ++ help ++ " \x7d"

/-! ## Scalars -/

def string : Schema σ String := ⟨.string false, none⟩

def number : Schema σ Double := ⟨.number false, none⟩

def integer : Schema σ Int64 := ⟨.integer false, none⟩

def boolean : Schema σ Bool := ⟨.boolean false, none⟩

def datetime : Schema σ Timestamp := ⟨.datetime, none⟩

def regex {ρ : Type} [engine : Regex.Engine ρ] : Schema σ ρ := ⟨.regex engine, none⟩

/-! ## Combinators -/

/-- Lets the scalars of a schema, containers apart, convert what they can. -/
def coerce (s : Schema σ α) : Schema σ α :=
  { s with shape := s.shape.coerce }

/-- Takes a missing value for `none`. -/
def optional (s : Schema σ α) : Schema σ (Option α) :=
  ⟨.optional s.shape, s.help⟩

/-- Takes an explicit null for `none`. -/
def nullable (s : Schema σ α) : Schema σ (Option α) :=
  ⟨.nullable s.shape, s.help⟩

/-- Puts a value in the place of every failure. -/
def orDefault (s : Schema σ α) (value : α) : Schema σ α :=
  ⟨.orDefault s.shape value, s.help⟩

/-- Tries this schema, then the other one, on the same input. -/
def or (s other : Schema σ α) : Schema σ α :=
  ⟨.union s.shape other.shape, s.help⟩

/-- Lets a function replace the outcome; it sees the input too. -/
def transformWithInput (s : Schema σ α) (f : Outcome α → Option Json → Outcome α) : Schema σ α :=
  ⟨.transform s.shape f, s.help⟩

def transform (s : Schema σ α) (f : Outcome α → Outcome α) : Schema σ α :=
  s.transformWithInput fun outcome _ ↦ f outcome

/-- Applies a function to every value that was read. -/
def andThen (s : Schema σ α) (f : α → α) : Schema σ α :=
  ⟨.andThen s.shape f, s.help⟩

/-- Lets a function answer for a failure, which remembers its input. -/
def recover (s : Schema σ α) (f : Failure → Outcome α) : Schema σ α :=
  ⟨.recover s.shape f, s.help⟩

/-- Rejects the values that a predicate does not accept. -/
def refine (s : Schema σ α) (accepts : α → Bool) (message : String) : Schema σ α :=
  ⟨.refine s.shape accepts message, s.help⟩

/-- Maps values to another type and back; what has no way back belongs to another schema. -/
def map (s : Schema σ α) (forward : α → β) (backward : β → Option α) : Schema σ β :=
  ⟨.map s.shape forward backward, s.help⟩

/-- Like `map`, with a way forward that may reject a value. -/
def tryMap (s : Schema σ α) (forward : α → Except String β) (backward : β → Option α) :
    Schema σ β :=
  ⟨.tryMap s.shape forward backward, s.help⟩

/-! ## Refinements -/

def matching {ρ : Type} [engine : Regex.Engine ρ] (s : Schema σ String) (pattern : ρ) :
    Schema σ String :=
  s.refine (engine.isMatch pattern) ("must match /" ++ engine.pattern pattern ++ "/")

def nonEmpty (s : Schema σ String) : Schema σ String :=
  s.refine (fun text ↦ !text.isEmpty) "must not be empty"

def numberRange (s : Schema σ Double) (least greatest : Double) : Schema σ Double :=
  s.refine (fun x ↦ least.le x && x.le greatest)
    ("must be between " ++ least.plainText ++ " and " ++ greatest.plainText)

def integerRange (s : Schema σ Int64) (least greatest : Int64) : Schema σ Int64 :=
  s.refine (fun i ↦ least ≤ i && i ≤ greatest)
    ("must be between " ++ toString least ++ " and " ++ toString greatest)

/-! ## Containers -/

def array (element : Schema σ α) : Schema σ (List α) :=
  ⟨.array element.shape, none⟩

def set [order : Ord α] (element : Schema σ α) : Schema σ (SortedSet α) :=
  ⟨.set order element.shape, none⟩

def distinct [equality : BEq α] (element : Schema σ α) : Schema σ (List α) :=
  ⟨.distinct equality element.shape, none⟩

def indexed (value : Schema σ α) : Schema σ (SortedMap String α) :=
  ⟨.indexed value.shape, none⟩

def mapOf {κ ν : Type} [order : Ord κ] (key : Schema σ κ) (value : Schema σ ν) :
    Schema σ (SortedMap κ ν) :=
  ⟨.mapOf order key.shape value.shape, none⟩

def tuple {αs : List Type} (items : Shapes σ αs) : Schema σ (Tuple αs) :=
  ⟨.tuple items, none⟩

/-- A sequence of JSON values, one schema for each position. -/
def sequence (items : List (Schema σ Json)) : Schema σ Json :=
  ⟨.sequence (.ofList (items.map shape)), none⟩

end Schema

/-! ## Objects -/

/-- Why an object schema cannot be built. -/
inductive BuildError where
  | duplicateField (name : String)
  | emptyFieldName
deriving DecidableEq, Repr

def BuildError.message : BuildError → String
  | duplicateField name => "duplicate field in object schema: " ++ name
  | emptyFieldName => "object field name cannot be empty"

/-- The fields declared so far, in order, and the first error among their names. -/
structure ObjectBuilder (σ : Type) where
  fields : Fields σ
  denyUnknown : Bool
  error : Option BuildError

namespace ObjectBuilder

variable {σ α : Type}

def empty : ObjectBuilder σ := ⟨.nil, false, none⟩

/-- What is wrong with one more field of this name. -/
def nameError? (declared : List String) (name : String) : Option BuildError :=
  if name.isEmpty then some .emptyFieldName
  else if declared.contains name then some (.duplicateField name)
  else none

def field (b : ObjectBuilder σ) (name : String) (type : SlotType σ α) (schema : Schema σ α) :
    ObjectBuilder σ :=
  { b with
    fields := b.fields.append (.cons name type schema.shape .nil)
    error := b.error.or (nameError? b.fields.names name) }

def denyUnknownFields (b : ObjectBuilder σ) : ObjectBuilder σ :=
  { b with denyUnknown := true }

def build (b : ObjectBuilder σ) : Except BuildError (Schema σ (Record σ)) :=
  match b.error with
  | some error => .error error
  | none => .ok ⟨.object b.fields b.denyUnknown, none⟩

/-- A schema of a type whose values are built from records of these fields and taken apart. -/
def buildAs (b : ObjectBuilder σ) (construct : Record σ → Except RecordError α)
    (takeApart : α → Record σ) : Except BuildError (Schema σ α) :=
  match b.error with
  | some error => .error error
  | none => .ok ⟨.construct b.fields b.denyUnknown construct takeApart, none⟩

end ObjectBuilder

end TwoWaySchema
