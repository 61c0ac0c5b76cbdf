import TwoWaySchema.Catalog.Descriptor.Reader
import TwoWaySchema.Catalog.Source

/-!
# Sources as data

A source is written as an object with the members `version` and `schemas`, the second an object
with a descriptor under each name.  A reader passes over other members, takes a source without
`schemas` for one without descriptors, and takes an array of the two in this order as well.  How
deep the arrays and objects of the whole may nest is up to the caller.
-/

namespace TwoWaySchema.CatalogSource

def toDocument (source : CatalogSource) : Document :=
  .object
    [("version", .string source.version),
      ("schemas",
        .object (source.schemas.entries.map fun (name, d) ↦ (name, d.toDocument)))]

open Transcript (Key)

variable (limit : Nat)

/-- Reads named descriptors in reading order; of descriptors with one name the last counts.  They
stand two levels down, and each is a level itself. -/
def readSchemas (read : SortedMap String Descriptor) :
    List (Key × Transcript) → Except ReadError (SortedMap String Descriptor)
  | [] => .ok read
  | (.text name, t) :: rest => do
    let d ← Descriptor.ofTranscript (limit - 3) t
    readSchemas (read.insert name d) rest
  | (key, _) :: _ => do
    ReadError.check (key.fault? 0)
    .error .form

def schemasOfTranscript : Transcript → Except ReadError (SortedMap String Descriptor)
  | .object members ending => do
    let schemas ← readSchemas limit .empty members
    ReadError.check ending
    return schemas
  | t => .error (.ofTranscript t)

/-- Reads the members of a source in reading order, given what has been read before. -/
def readMembers (version : Option String) (schemas : Option (SortedMap String Descriptor)) :
    List (Key × Transcript) →
      Except ReadError (Option String × Option (SortedMap String Descriptor))
  | [] => .ok (version, schemas)
  | (key, t) :: rest => do
    ReadError.check (key.fault? 0)
    match key with
    | .text "version" =>
      if version.isSome then .error .form
      else readMembers (some (← ReadError.requireText t)) schemas rest
    | .text "schemas" =>
      if schemas.isSome then .error .form
      else readMembers version (some (← schemasOfTranscript limit t)) rest
    | _ =>
      ReadError.check t.passingFault?
      readMembers version schemas rest

def ofTranscript : Transcript → Except ReadError CatalogSource
  | .object members ending => do
    let (version, schemas) ← readMembers limit none none members
    ReadError.check ending
    return ⟨← ReadError.ofOption version, schemas.getD .empty⟩
  | .array items ending => do
    match items with
    | [] =>
      ReadError.check ending
      .error .form
    | [version] =>
      let version ← ReadError.requireText version
      ReadError.check ending
      return empty version
    | [version, schemas] =>
      let version ← ReadError.requireText version
      let schemas ← schemasOfTranscript limit schemas
      ReadError.check ending
      return ⟨version, schemas⟩
    | version :: schemas :: _ =>
      let _ ← ReadError.requireText version
      let _ ← schemasOfTranscript limit schemas
      .error (.text .malformed)
  | t => .error (.ofTranscript t)

end TwoWaySchema.CatalogSource
