import TwoWaySchema.Catalog.Descriptor
import TwoWaySchema.Json.Document
import TwoWaySchema.Json.Transcript

/-!
# Descriptors as data

A descriptor is written as an object whose first member, `type`, says which kind of descriptor it
is; the other members are the kind's parts.  Flags that are not set and patterns that are not given
are left out.  A reader takes the members in any order and passes over those it does not know, and
it also takes an array, of the type and then the parts in the order in which they are written.  In
an object as well a part may be told by its place in that order.
-/

namespace TwoWaySchema

/-- The kinds of descriptors, in the order of their indices. -/
inductive DescriptorType where
  | string | number | integer | boolean | datetime | array | set | tuple | object | indexed
  | optional | nullable | orDefault | union | reference
deriving DecidableEq, Repr

namespace DescriptorType

def all : List DescriptorType :=
  [string, number, integer, boolean, datetime, array, set, tuple, object, indexed, optional,
    nullable, orDefault, union, reference]

def name : DescriptorType → String
  | string => "string"
  | number => "number"
  | integer => "integer"
  | boolean => "boolean"
  | datetime => "datetime"
  | array => "array"
  | set => "set"
  | tuple => "tuple"
  | object => "object"
  | indexed => "indexed"
  | optional => "optional"
  | nullable => "nullable"
  | orDefault => "default"
  | union => "union"
  | reference => "ref"

def ofName? (name : String) : Option DescriptorType :=
  all.find? fun type ↦ type.name = name

/-- The keys of the parts, in the order in which they are written. -/
def keys : DescriptorType → List String
  | string => ["coerce", "pattern"]
  | number | integer | boolean => ["coerce"]
  | datetime => []
  | array | set | tuple => ["items"]
  | object => ["fields", "deny_unknown_fields"]
  | indexed => ["values"]
  | optional | nullable => ["inner"]
  | orDefault => ["inner", "value"]
  | union => ["any_of"]
  | reference => ["schema"]

end DescriptorType

namespace Descriptor

def type : Descriptor → DescriptorType
  | string _ _ => .string
  | number _ => .number
  | integer _ => .integer
  | boolean _ => .boolean
  | datetime => .datetime
  | array _ => .array
  | set _ => .set
  | tuple _ => .tuple
  | object _ _ => .object
  | indexed _ => .indexed
  | optional _ => .optional
  | nullable _ => .nullable
  | orDefault _ _ => .orDefault
  | union _ => .union
  | reference _ => .reference

/-! ## Writing -/

/-- The members of a descriptor of this type, from its parts in the order of the type's keys. -/
def assemble (type : DescriptorType) (parts : List (Option Document)) :
    List (String × Document) :=
  ("type", .string type.name) ::
    (type.keys.zip parts).filterMap fun (key, part) ↦ part.map (key, ·)

def flagPart (flag : Bool) : Option Document :=
  if flag then some (.bool true) else none

mutual

/-- The parts of a descriptor, those that are left out as none. -/
def parts : Descriptor → List (Option Document)
  | string coerces pattern => [flagPart coerces, pattern.map .string]
  | number coerces | integer coerces | boolean coerces => [flagPart coerces]
  | datetime => []
  | array d | set d | indexed d | optional d | nullable d =>
    [some (.object (assemble d.type (parts d)))]
  | tuple items | union items => [some (.array (itemDocuments items))]
  | object fields denyUnknown => [some (.array (fieldDocuments fields)), flagPart denyUnknown]
  | orDefault d value => [some (.object (assemble d.type (parts d))), some (.ofValue value)]
  | reference name => [some (.string name)]

def itemDocuments : List Descriptor → List Document
  | [] => []
  | d :: rest => .object (assemble d.type (parts d)) :: itemDocuments rest

/-- A field is written like its descriptor, with its name in front. -/
def fieldDocuments : List (String × Descriptor) → List Document
  | [] => []
  | (name, d) :: rest =>
    .object (("name", .string name) :: assemble d.type (parts d)) :: fieldDocuments rest

end

def toDocument (d : Descriptor) : Document :=
  .object (assemble d.type d.parts)

/-! ## Reading -/

open Transcript (Key)

/-- A transcript inside a descriptor, with what it denotes in each of the places where it may
stand. -/
structure Part where
  transcript : Transcript
  descriptor : Option Descriptor
  descriptors : Option (List Descriptor)
  field : Option (String × Descriptor)
  fields : Option (List (String × Descriptor))

namespace Part

/-- A member that need not be there but must not be there twice, under one key or the other. -/
def only? (keys : List Key) (members : List (Key × Part)) : Option (Option Part) :=
  match members.filter fun member ↦ keys.contains member.1 with
  | [] => some none
  | [(_, part)] => some (some part)
  | _ => none

/-- A type is given by its name or by its index. -/
def type? (part : Part) : Option DescriptorType :=
  match part.transcript with
  | .string name => DescriptorType.ofName? name
  | .number (.whole i _) => if 0 ≤ i then DescriptorType.all[i.toNat]? else none
  | _ => none

def flag? : Option Part → Option Bool
  | none => some false
  | some part =>
    match part.transcript with
    | .bool b => some b
    | _ => none

def text? (part : Part) : Option String :=
  match part.transcript with
  | .string s => some s
  | _ => none

def pattern? : Option Part → Option (Option String)
  | none => some none
  | some part =>
    match part.transcript with
    | .null => some none
    | .string s => some (some s)
    | _ => none

end Part

/-- The descriptor of a type with these parts, in the order of the type's keys. -/
def ofParts? : DescriptorType → List (Option Part) → Option Descriptor
  | .string, [coerces, pattern] => do
    return .string (← Part.flag? coerces) (← Part.pattern? pattern)
  | .number, [coerces] => (Part.flag? coerces).map number
  | .integer, [coerces] => (Part.flag? coerces).map integer
  | .boolean, [coerces] => (Part.flag? coerces).map boolean
  | .datetime, [] => some datetime
  | .array, [some items] => items.descriptor.map array
  | .set, [some items] => items.descriptor.map set
  | .tuple, [some items] => items.descriptors.map tuple
  | .object, [some fields, denyUnknown] => do
    return .object (← fields.fields) (← Part.flag? denyUnknown)
  | .indexed, [some values] => values.descriptor.map indexed
  | .optional, [some inner] => inner.descriptor.map optional
  | .nullable, [some inner] => inner.descriptor.map nullable
  | .orDefault, [some inner, some value] => do
    return orDefault (← inner.descriptor) (← value.transcript.value?)
  | .union, [some alternatives] => alternatives.descriptors.map union
  | .reference, [some name] => name.text?.map reference
  | _, _ => none

/-- Whether a part can be told by a key of this kind. -/
def isPartKey : Key → Bool
  | .text _ | .index _ => true
  | _ => false

/-- A descriptor of this type from the members of an object.  A type without parts has no use for
any of them. -/
def ofTypeAndMembers? (type : DescriptorType) (members : List (Key × Part)) :
    Option Descriptor :=
  if type.keys.isEmpty then ofParts? type []
  else if members.all fun (key, _) ↦ isPartKey key then do
    ofParts? type
      (← type.keys.zipIdx.mapM fun (key, i) ↦ Part.only? [.text key, .index i] members)
  else none

/-- A descriptor of this type from the items of an array, the last of which may be missing. -/
def ofTypeAndItems? (type : DescriptorType) (items : List Part) : Option Descriptor :=
  if items.length ≤ type.keys.length then
    ofParts? type (items.map some ++ List.replicate (type.keys.length - items.length) none)
  else none

def ofMembers? (members : List (Key × Part)) : Option Descriptor := do
  ofTypeAndMembers? (← (← (← Part.only? [.text "type"] members)).type?) members

def ofItems? : List Part → Option Descriptor
  | [] => none
  | type :: items => do ofTypeAndItems? (← type.type?) items

/-- A field is an object with the field's name among the members of its descriptor. -/
def fieldOfMembers? (members : List (Key × Part)) : Option (String × Descriptor) :=
  if members.any fun (key, _) ↦ key matches .collection _ then none
  else do
    let name ← (← (← Part.only? [.text "name"] members)).text?
    return (name, ← ofMembers? (members.filter fun (key, _) ↦ key ≠ .text "name"))

namespace Part

mutual

/-- The parts that transcripts without faults are. -/
def ofTranscript : Transcript → Part
  | .array items ending =>
    let parts := ofTranscripts items
    ⟨.array items ending, ofItems? parts, parts.mapM Part.descriptor, none,
      parts.mapM Part.field⟩
  | .object members ending =>
    let parts := ofMemberTranscripts members
    ⟨.object members ending, ofMembers? parts, none, fieldOfMembers? parts, none⟩
  | t => ⟨t, none, none, none, none⟩

def ofTranscripts : List Transcript → List Part
  | [] => []
  | t :: rest => ofTranscript t :: ofTranscripts rest

def ofMemberTranscripts : List (Key × Transcript) → List (Key × Part)
  | [] => []
  | (key, t) :: rest => (key, ofTranscript t) :: ofMemberTranscripts rest

end

end Part

end Descriptor

end TwoWaySchema
