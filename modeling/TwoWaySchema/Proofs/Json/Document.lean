import TwoWaySchema.Json.Document
import TwoWaySchema.Json.Transcript
import TwoWaySchema.Proofs.Json

/-!
# Documents as transcripts

What a text says that was written from a document: the document, member by member and without a
fault, provided that it may nest as deep as it does.  A document that writes a JSON value has this
value.
-/

namespace TwoWaySchema

namespace Document

mutual

/-- What a text of the document says. -/
def transcript : Document → Transcript
  | null => .null
  | bool b => .bool b
  | number n => .number n
  | string s => .string s
  | array items => .array (transcripts items) none
  | object members => .object (memberTranscripts members) none

def transcripts : List Document → List Transcript
  | [] => []
  | d :: rest => d.transcript :: transcripts rest

def memberTranscripts : List (String × Document) → List (Transcript.Key × Transcript)
  | [] => []
  | (key, d) :: rest => (.text key, d.transcript) :: memberTranscripts rest

end

/-! ## Faults -/

mutual

/-- There is no fault in what a document says if it may nest as deep as it does. -/
theorem firstFault?_transcript {depth : Nat} : (d : Document) → d.transcript.levels ≤ depth →
    d.transcript.firstFault? depth = none
  | null, _ | bool _, _ | number _, _ | string _, _ => rfl
  | array items, h => by
    cases depth with
    | zero => exact absurd h (Nat.not_succ_le_zero _)
    | succ depth =>
      have hitems := faultOfItems?_transcripts items (Nat.le_of_succ_le_succ h)
      rw [transcript, Transcript.firstFault?, hitems]
      rfl
  | object members, h => by
    cases depth with
    | zero => exact absurd h (Nat.not_succ_le_zero _)
    | succ depth =>
      have hmembers := faultOfMembers?_memberTranscripts members (Nat.le_of_succ_le_succ h)
      rw [transcript, Transcript.firstFault?, hmembers]
      rfl

theorem faultOfItems?_transcripts {depth : Nat} : (items : List Document) →
    Transcript.levelsOfItems (transcripts items) ≤ depth →
      Transcript.faultOfItems? depth (transcripts items) = none
  | [], _ => rfl
  | d :: rest, h => by
    rw [transcripts, Transcript.levelsOfItems, Nat.max_le] at h
    rw [transcripts, Transcript.faultOfItems?, d.firstFault?_transcript h.1,
      faultOfItems?_transcripts rest h.2]
    rfl

theorem faultOfMembers?_memberTranscripts {depth : Nat} : (members : List (String × Document)) →
    Transcript.levelsOfMembers (memberTranscripts members) ≤ depth →
      Transcript.faultOfMembers? depth (memberTranscripts members) = none
  | [], _ => rfl
  | (key, d) :: rest, h => by
    rw [memberTranscripts, Transcript.levelsOfMembers, Nat.max_le] at h
    · rw [memberTranscripts, Transcript.faultOfMembers?, d.firstFault?_transcript h.1,
        faultOfMembers?_memberTranscripts rest h.2]
      rfl
    · nofun

end

/-! ## Values -/

mutual

/-- A document that writes a value says this value. -/
theorem value?_transcript_ofValue : (x : Json) → x.WellFormed →
    (ofValue x).transcript.value? = some x
  | .null, _ | .bool _, _ | .number _, _ | .string _, _ => rfl
  | .array items, h => by
    rw [ofValue, transcript, Transcript.value?, valueOfItems?_transcripts items h]
    rfl
  | .object members, h => by
    rw [ofValue, transcript, Transcript.value?, valueOfMembers?_memberTranscripts members h.2]
    exact congrArg some (Json.ofMembers_of_isAscending h.1)

theorem valueOfItems?_transcripts : (items : List Json) → Json.WellFormedItems items →
    Transcript.valueOfItems? (transcripts (ofValues items)) = some items
  | [], _ => rfl
  | x :: rest, h => by
    rw [ofValues, transcripts, Transcript.valueOfItems?, value?_transcript_ofValue x h.1,
      valueOfItems?_transcripts rest h.2]
    rfl

theorem valueOfMembers?_memberTranscripts : (members : List (String × Json)) →
    Json.WellFormedMembers members →
      Transcript.valueOfMembers? (memberTranscripts (ofMembers members)) = some members
  | [], _ => rfl
  | (key, x) :: rest, h => by
    rw [ofMembers, memberTranscripts, Transcript.valueOfMembers?, value?_transcript_ofValue x h.1,
      valueOfMembers?_memberTranscripts rest h.2]
    rfl

end

end Document

end TwoWaySchema
