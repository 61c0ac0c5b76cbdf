import TwoWaySchema.Failure

/-!
# Errors as data

Errors are themselves exchanged as JSON: an entry is an object with `path`, `kind` and `message`,
or the array of these three, and a path is an array of keys and indices.
-/

namespace TwoWaySchema

namespace PathSegment

/-- The JSON form; an index past 64 bits, which no sequence has, is written as text. -/
def toJson : PathSegment → Json
  | key name => .string name
  | index i =>
    match Number.ofInt? i with
    | some n => .number n
    | none => .string (toString i)

def ofJson? : Json → Option PathSegment
  | .string name => some (key name)
  | .number (.whole n _) => if 0 ≤ n then some (index n.toNat) else none
  | _ => none

end PathSegment

def Path.toJson (path : Path) : Json :=
  .array (path.map PathSegment.toJson)

def Path.ofJson? (x : Json) : Option Path := do
  (← x.toItems?).mapM PathSegment.ofJson?

/-- Reads the code of a kind; an object with the code as its only key and null under it counts. -/
def ErrorKind.ofJson? : Json → Option ErrorKind
  | .string code => ofCode? code
  | .object [(code, .null)] => ofCode? code
  | _ => none

namespace ErrorEntry

def toJson (entry : ErrorEntry) : Json :=
  .ofMembers
    [("path", entry.path.toJson), ("kind", .string entry.kind.code),
      ("message", .string entry.message)]

def ofParts? (path kind message : Json) : Option ErrorEntry := do
  return ⟨← Path.ofJson? path, ← ErrorKind.ofJson? kind, ← message.toText?⟩

/-- Reads an entry; members of other names have no effect. -/
def ofJson? : Json → Option ErrorEntry
  | .object members => do
    ofParts? (← members.lookup "path") (← members.lookup "kind") (← members.lookup "message")
  | .array [path, kind, message] => ofParts? path kind message
  | _ => none

end ErrorEntry

/-- The JSON form of a failure lists its errors; the input that it remembers is left out. -/
def Failure.toJson (failure : Failure) : Json :=
  .ofMembers [("errors", .array (failure.errors.map ErrorEntry.toJson))]

end TwoWaySchema
