import TwoWaySchema.Catalog.Descriptor.Wire

/-!
# Reading descriptors

A descriptor that is read from a text may meet a fault of the text or be of another form than a
descriptor; what comes first in reading order is the error.  The type is looked at as soon as it is
met, the parts once the descriptor is complete.
-/

namespace TwoWaySchema

inductive ReadError where
  | text (fault : Fault)
  /-- So far the text is JSON, but what it says is not what is looked for. -/
  | form
deriving DecidableEq, Repr

namespace ReadError

def check : Option Fault → Except ReadError Unit
  | none => .ok ()
  | some fault => .error (.text fault)

/-- The error of a transcript that should be of another form; a scalar that cannot be read at all
is a fault of the text. -/
def ofTranscript : Transcript → ReadError
  | .fault f | .valueless f _ => .text f
  | _ => .form

def ofOption {α : Type} : Option α → Except ReadError α
  | some a => .ok a
  | none => .error .form

/-- Reads a string. -/
def requireText : Transcript → Except ReadError String
  | .string s => .ok s
  | t => .error (ofTranscript t)

end ReadError

namespace Descriptor

open Transcript (Key)

/-- The type of a descriptor, which has to be given by its name here. -/
def typeOfTranscript (t : Transcript) : Except ReadError DescriptorType := do
  ReadError.ofOption (DescriptorType.ofName? (← ReadError.requireText t))

/-- Goes through members in reading order for the type among them. -/
def typeOfMembers (depth : Nat) (found : Option DescriptorType) :
    List (Key × Transcript) → Except ReadError (Option DescriptorType)
  | [] => .ok found
  | (key, t) :: rest => do
    if key = .text "type" then
      if found.isSome then .error .form
      else typeOfMembers depth (some (← typeOfTranscript t)) rest
    else
      ReadError.check (key.fault? depth)
      ReadError.check (t.firstFault? depth)
      typeOfMembers depth found rest

/-- Reads a descriptor, inside which arrays and objects may nest this deep. -/
def ofTranscript (depth : Nat) : Transcript → Except ReadError Descriptor
  | .object members ending => do
    let found ← typeOfMembers depth none members
    ReadError.check ending
    let type ← ReadError.ofOption found
    ReadError.ofOption (ofTypeAndMembers? type (Part.ofMemberTranscripts members))
  | .array [] ending => do
    ReadError.check ending
    .error .form
  | .array (type :: items) ending => do
    let type ← typeOfTranscript type
    ReadError.check (Transcript.faultOfItems? depth items)
    ReadError.check ending
    ReadError.ofOption (ofTypeAndItems? type (Part.ofTranscripts items))
  | t => .error (.ofTranscript t)

end Descriptor

end TwoWaySchema
