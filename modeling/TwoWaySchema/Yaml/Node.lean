import TwoWaySchema.Yaml.Scalar

/-!
# YAML nodes

A YAML text is a tree of scalars, sequences and mappings.
-/

namespace TwoWaySchema.Yaml

inductive Node where
  | scalar (s : Scalar)
  | sequence (items : List Node)
  | mapping (entries : List (Node × Node))
deriving Repr, Inhabited

namespace Node

/-- The node of a place where nothing is written. -/
def blank : Node :=
  .scalar ⟨"", true⟩

/-- The text of a scalar, whatever it stands for. -/
def text? : Node → Option String
  | scalar s => some s.text
  | _ => none

mutual

/-- What a node says as data. -/
def transcript : Node → Transcript
  | scalar s => s.transcript
  | sequence items => .array (transcripts items) none
  | mapping entries => .object (memberTranscripts entries) none

def transcripts : List Node → List Transcript
  | [] => []
  | node :: rest => transcript node :: transcripts rest

def memberTranscripts : List (Node × Node) → List (Transcript.Key × Transcript)
  | [] => []
  | (key, node) :: rest => ((transcript key).toKey, transcript node) :: memberTranscripts rest

end

end Node

end TwoWaySchema.Yaml
