import TwoWaySchema.Catalog.Source.Yaml
import TwoWaySchema.Json.Reader

/-!
# Catalog files

A file whose name ends in `.json`, with more in front of it, holds JSON; every other file holds
YAML.
-/

namespace TwoWaySchema

inductive LoadError where
  | missingFile
  | json (error : ReadError)
  | yaml
deriving DecidableEq, Repr

/-- Reads a value from a transcript and then looks at what follows it in the text. -/
def ReadError.readText {α : Type} (read : Transcript → Except ReadError α) (text : String) :
    Except ReadError α := do
  let (t, trailing) := Transcript.ofText text
  let a ← read t
  check trailing
  return a

def Descriptor.ofText (text : String) : Except ReadError Descriptor :=
  ReadError.readText (ofTranscript (Transcript.nestingLimit - 1)) text

namespace CatalogSource

/-- Reads a JSON text whose arrays and objects may nest this deep. -/
def ofJsonWithin (limit : Nat) (text : String) : Except LoadError CatalogSource :=
  (ReadError.readText (ofTranscript limit) text).mapError .json

def ofJson : (text : String) → Except LoadError CatalogSource :=
  ofJsonWithin Transcript.nestingLimit

def ofYaml (text : String) : Except LoadError CatalogSource :=
  match ofYaml? text with
  | some source => .ok source
  | none => .error .yaml

def jsonText (source : CatalogSource) : String :=
  source.toDocument.compactText

/-- Whether a file of this name holds JSON. -/
def isJsonFile (name : String) : Bool :=
  let parts := name.splitOn "."
  parts.getLast? = some "json" && parts.dropLast != [] && parts.dropLast != [""]

/-- What a file of this name holds when a source is saved to it. -/
def fileText (source : CatalogSource) (name : String) : String :=
  if isJsonFile name then source.toDocument.prettyText "" else source.yamlText

/-- Loads the file of this name, if there is one, from what it holds. -/
def load (name : String) : (text : Option String) → Except LoadError CatalogSource
  | none => .error .missingFile
  | some text => if isJsonFile name then ofJson text else ofYaml text

end CatalogSource

end TwoWaySchema
