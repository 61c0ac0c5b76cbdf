import TwoWaySchema.Json

/-!
# Failures

Reading data yields a typed value or a failure, which lists every error found, each with the path
of the value it is about.  A failure may remember the input that it came from; two failures are
equal when their errors are, whatever they remember.
-/

namespace TwoWaySchema

/-! ## Paths -/

inductive PathSegment where
  | key (name : String)
  | index (i : Nat)
deriving DecidableEq, Repr

namespace PathSegment

def text : PathSegment → String
  | key name => name
  | index i => toString i

/-- Writes a segment after what is already written: a point stands before every key but the
first segment's. -/
def append (written : String) : PathSegment → String
  | key name => if written.isEmpty then written ++ name else written ++ "." ++ name
  | index i => written ++ "[" ++ toString i ++ "]"

end PathSegment

abbrev Path : Type := List PathSegment

/-- The text of a path, `users[3].email`; the empty path is `$`. -/
def Path.text (path : Path) : String :=
  if path.isEmpty then "$" else path.foldl PathSegment.append ""

/-! ## Errors -/

inductive ErrorKind where
  /-- The value is of another kind. -/
  | typeMismatch
  /-- The container is of another kind, or it has the wrong number of items. -/
  | shapeMismatch
  /-- The value is absent or null where one is required. -/
  | missingValue
  /-- No conversion of the value succeeded. -/
  | coercionFailure
  /-- Every alternative of a union rejected the value. -/
  | unionExhausted
  /-- A refinement or a mapping rejected a value of the right type. -/
  | invalid
deriving DecidableEq, Repr

namespace ErrorKind

def code : ErrorKind → String
  | typeMismatch => "type_mismatch"
  | shapeMismatch => "shape_mismatch"
  | missingValue => "missing_value"
  | coercionFailure => "coercion_failure"
  | unionExhausted => "union_exhausted"
  | invalid => "invalid"

def all : List ErrorKind :=
  [typeMismatch, shapeMismatch, missingValue, coercionFailure, unionExhausted, invalid]

def ofCode? (code : String) : Option ErrorKind :=
  all.find? fun kind ↦ kind.code == code

end ErrorKind

structure ErrorEntry where
  path : Path
  kind : ErrorKind
  message : String
deriving DecidableEq, Repr

namespace ErrorEntry

/-- The same error seen from one level further out. -/
def within (segment : PathSegment) (entry : ErrorEntry) : ErrorEntry :=
  { entry with path := segment :: entry.path }

def isRoot (entry : ErrorEntry) : Bool :=
  entry.path.isEmpty

def text (entry : ErrorEntry) : String :=
  entry.path.text ++ ": " ++ entry.message

/-- Whether the entry says of the value itself that no alternative accepts it. -/
def isSummary (entry : ErrorEntry) : Bool :=
  entry.kind = .unionExhausted && entry.isRoot

end ErrorEntry

structure Failure where
  errors : List ErrorEntry
  /-- The input that was being read, where it has been remembered and was not absent. -/
  input : Option Json := none

namespace Failure

instance : BEq Failure where
  beq a b := a.errors == b.errors

/-- One error about the value itself. -/
def single (kind : ErrorKind) (message : String) : Failure :=
  ⟨[⟨[], kind, message⟩], none⟩

def missing : Failure :=
  single .missingValue "value is required"

def typeMismatch (expected : String) (found : Json) : Failure :=
  single .typeMismatch ("expected " ++ expected ++ ", found " ++ found.kindName)

def shapeMismatch (message : String) : Failure :=
  single .shapeMismatch message

def hasKind (failure : Failure) (kind : ErrorKind) : Bool :=
  failure.errors.any fun entry ↦ entry.kind = kind

/-- Whether all there is to say is that the value is missing. -/
def isMissing (failure : Failure) : Bool :=
  !failure.errors.isEmpty
    && failure.errors.all fun entry ↦ entry.kind = .missingValue && entry.isRoot

def within (segment : PathSegment) (failure : Failure) : Failure :=
  { failure with errors := failure.errors.map (ErrorEntry.within segment) }

/-- Adds the errors of a second failure. -/
def merge (failure other : Failure) : Failure :=
  { failure with errors := failure.errors ++ other.errors }

def withInput (failure : Failure) (input : Option Json) : Failure :=
  { failure with input := input }

def text (failure : Failure) : String :=
  "; ".intercalate (failure.errors.map ErrorEntry.text)

end Failure

/-- What reading data comes to. -/
abbrev Outcome (α : Type) : Type := Except Failure α

namespace Outcome

variable {α : Type}

/-- The value, or one error of the kind `invalid` with the message given instead. -/
def ofMessage : Except String α → Outcome α
  | .ok a => .ok a
  | .error message => .error (.single .invalid message)

def within (segment : PathSegment) : Outcome α → Outcome α
  | .ok a => .ok a
  | .error failure => .error (failure.within segment)

def withInput (input : Option Json) : Outcome α → Outcome α
  | .ok a => .ok a
  | .error failure => .error (failure.withInput input)

def errors : Outcome α → List ErrorEntry
  | .ok _ => []
  | .error failure => failure.errors

/-- All values, in order, when no outcome has an error, and else all errors in order.  An outcome
that failed without naming an error contributes neither. -/
def collect (outcomes : List (Outcome α)) : Outcome (List α) :=
  let errors := outcomes.flatMap Outcome.errors
  if errors.isEmpty then .ok (outcomes.filterMap Except.toOption) else .error ⟨errors, none⟩

end Outcome

/-- The value, which has to be there and not to be null. -/
def requirePresent : Option Json → Outcome Json
  | none | some .null => .error .missing
  | some x => .ok x

end TwoWaySchema
