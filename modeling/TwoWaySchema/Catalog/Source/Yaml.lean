import TwoWaySchema.Catalog.Source.Wire
import TwoWaySchema.Yaml.Node.Reader
import TwoWaySchema.Yaml.Printer

/-!
# Sources in YAML

The members of a source and the names of its descriptors are scalars of any kind, and so is its
version; inside descriptors only what reads as a string is one.  A source under whose `schemas`
nothing is written has no descriptors.
-/

namespace TwoWaySchema.CatalogSource

open Yaml (Node)

/-- How deep the parts of a descriptor may nest. -/
def partNestingLimit : Nat := 125

/-- The entries of a mapping, all of which have scalars for keys. -/
def namedNodes? : Node → Option (List (String × Node))
  | .mapping entries => entries.mapM fun (key, node) ↦ do return (← key.text?, node)
  | _ => none

/-- The nodes with this name, of which there may be one. -/
def onlyNode? (name : String) (members : List (String × Node)) : Option (Option Node) :=
  match members.filter (·.1 == name) with
  | [] => some none
  | [(_, node)] => some (some node)
  | _ => none

/-- Reads named descriptors; of descriptors with one name the last counts. -/
def schemasOfNode? : Node → Option (SortedMap String Descriptor)
  | .scalar ⟨"", true⟩ => some .empty
  | node => do
    (← namedNodes? node).foldlM
      (fun schemas (name, node) ↦
        (Descriptor.ofTranscript partNestingLimit node.transcript).toOption.map
          (schemas.insert name))
      .empty

def ofNode? (node : Node) : Option CatalogSource := do
  let members ← namedNodes? node
  let version ← (← (← onlyNode? "version" members)).text?
  let schemas ←
    match ← onlyNode? "schemas" members with
    | none => some .empty
    | some node => schemasOfNode? node
  return ⟨version, schemas⟩

def ofYaml? (text : String) : Option CatalogSource := do
  ofNode? (← Node.ofText? text)

def yamlText (source : CatalogSource) : String :=
  source.toDocument.yamlText

end TwoWaySchema.CatalogSource
