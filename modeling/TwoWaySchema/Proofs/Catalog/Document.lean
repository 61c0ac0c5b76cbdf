import TwoWaySchema.Catalog.Source.File
import TwoWaySchema.Proofs.Json.Document
import TwoWaySchema.Proofs.Lookup

/-!
# Catalogs as documents

The document of a descriptor is read as the descriptor, and that of a source as the source.  Both
sides take the parts of a descriptor by the keys of its type, so what is to be shown for each kind
of descriptor is only that its parts are read from the documents of its parts.  Reading is through
the transcript of the document; what a text has to do with it is left to the reader of texts.
-/

namespace TwoWaySchema

theorem DescriptorType.ofName?_name (type : DescriptorType) : ofName? type.name = some type := by
  cases type <;> rfl

/-- The name of a field, the type and the parts of a descriptor have different keys. -/
theorem DescriptorType.nodup_keys (type : DescriptorType) :
    ("name" :: "type" :: type.keys).Nodup := by
  cases type <;> decide

namespace Descriptor

open Transcript (Key)

/-! ## Parts of documents -/

namespace Part

/-- The part that a document is. -/
def ofDocument (d : Document) : Part :=
  ofTranscript d.transcript

def ofMembers (members : List (String × Document)) : List (Key × Part) :=
  members.map fun member ↦ (.text member.1, ofDocument member.2)

variable {members : List (String × Document)} {items : List Document}

theorem ofTranscripts_transcripts :
    ofTranscripts (Document.transcripts items) = items.map ofDocument := by
  induction items with
  | nil => rfl
  | cons item rest ih =>
    rw [Document.transcripts, ofTranscripts, ih]
    rfl

theorem ofMemberTranscripts_memberTranscripts :
    ofMemberTranscripts (Document.memberTranscripts members) = ofMembers members := by
  induction members with
  | nil => rfl
  | cons member rest ih =>
    rw [Document.memberTranscripts, ofMemberTranscripts, ih]
    rfl

theorem transcript_ofDocument (d : Document) : (ofDocument d).transcript = d.transcript := by
  cases d <;> rfl

theorem descriptor_ofDocument_object :
    (ofDocument (.object members)).descriptor = ofMembers? (ofMembers members) :=
  congrArg ofMembers? ofMemberTranscripts_memberTranscripts

theorem field_ofDocument_object :
    (ofDocument (.object members)).field = fieldOfMembers? (ofMembers members) :=
  congrArg fieldOfMembers? ofMemberTranscripts_memberTranscripts

theorem descriptors_ofDocument_array :
    (ofDocument (.array items)).descriptors = (items.map ofDocument).mapM Part.descriptor :=
  congrArg (List.mapM Part.descriptor) ofTranscripts_transcripts

theorem fields_ofDocument_array :
    (ofDocument (.array items)).fields = (items.map ofDocument).mapM Part.field :=
  congrArg (List.mapM Part.field) ofTranscripts_transcripts

/-- Among members with distinct names the only one of a name is the one that is looked up. -/
theorem only?_ofMembers {keys : List Key} (name : String) (hnames : (members.map Prod.fst).Nodup)
    (hkeys : ∀ other, Key.text other ∈ keys ↔ other = name) :
    only? keys (ofMembers members) = some ((members.lookup name).map ofDocument) := by
  have hfilter : (ofMembers members).filter (fun member ↦ keys.contains member.1) =
      ofMembers ((members.lookup name).map (name, ·)).toList := by
    have hkey : ∀ other, keys.contains (Key.text other) = (other == name) := fun other ↦ by
      rw [Bool.eq_iff_iff, List.contains_iff_mem, hkeys, beq_iff_eq]
    rw [← filter_eq_toList_lookup hnames, ofMembers, List.filter_map, ofMembers]
    simp only [Function.comp_def, hkey]
  unfold only?
  rw [hfilter]
  cases members.lookup name <;> rfl

end Part

/-! ## Members of descriptors -/

variable {type : DescriptorType} {parts : List (Option Document)}

theorem assemble_eq_presentMembers :
    assemble type parts =
      presentMembers ("type" :: type.keys) (some (.string type.name) :: parts) := by
  rw [presentMembers, presentMembers_eq_filterMap]
  rfl

theorem nodup_names_assemble : ((assemble type parts).map Prod.fst).Nodup := by
  rw [assemble_eq_presentMembers]
  exact type.nodup_keys.of_cons.sublist presentMembers_sublist

theorem ne_name_of_mem_assemble : ∀ member ∈ assemble type parts, member.1 ≠ "name" := by
  intro member hmember heq
  rw [assemble_eq_presentMembers] at hmember
  have hkey := presentMembers_sublist.subset (List.mem_map_of_mem (f := Prod.fst) hmember)
  rw [heq] at hkey
  exact (List.nodup_cons.1 type.nodup_keys).1 hkey

/-- Under the keys of the type stand the parts. -/
theorem map_lookup_assemble (hlength : parts.length = type.keys.length) :
    type.keys.map (fun key ↦ (assemble type parts).lookup key) = parts := by
  have hnames : ("type" :: type.keys).Nodup := type.nodup_keys.of_cons
  have hmembers : ("type" :: type.keys).map (fun key ↦ (assemble type parts).lookup key) =
      some (.string type.name) :: parts := by
    rw [assemble_eq_presentMembers]
    exact map_lookup_presentMembers hnames (congrArg (· + 1) hlength.symm)
  exact (List.cons.inj hmembers).2

theorem mapM_only?_assemble (hlength : parts.length = type.keys.length) :
    (type.keys.zipIdx.mapM fun part ↦
        Part.only? [.text part.1, .index part.2] (Part.ofMembers (assemble type parts))) =
      some (parts.map (Option.map Part.ofDocument)) := by
  have honly : (fun part : String × Nat ↦
      Part.only? [.text part.1, .index part.2] (Part.ofMembers (assemble type parts))) =
        fun part ↦ pure (((assemble type parts).lookup part.1).map Part.ofDocument) := by
    funext part
    exact Part.only?_ofMembers part.1 nodup_names_assemble fun other ↦ by simp
  rw [honly, List.mapM_pure]
  apply congrArg some
  calc type.keys.zipIdx.map (fun part ↦ ((assemble type parts).lookup part.1).map Part.ofDocument)
      = ((type.keys.zipIdx.map Prod.fst).map
          fun key ↦ (assemble type parts).lookup key).map (Option.map Part.ofDocument) := by
        simp only [List.map_map, Function.comp_def]
    _ = parts.map (Option.map Part.ofDocument) := by
        rw [List.zipIdx_map_fst, map_lookup_assemble hlength]

/-- From the members of a descriptor its type's parts are read. -/
theorem ofTypeAndMembers?_assemble (hlength : parts.length = type.keys.length) :
    ofTypeAndMembers? type (Part.ofMembers (assemble type parts)) =
      ofParts? type (parts.map (Option.map Part.ofDocument)) := by
  unfold ofTypeAndMembers?
  split
  next hempty =>
    have hnil : parts = [] := by
      rw [← List.length_eq_zero_iff, hlength, List.isEmpty_iff.1 hempty, List.length_nil]
    rw [hnil, List.map_nil]
  next =>
    apply (if_pos _).trans
    · exact congrArg (· >>= ofParts? type) (mapM_only?_assemble hlength)
    · simp [Part.ofMembers, isPartKey]

theorem ofMembers?_assemble (hlength : parts.length = type.keys.length) :
    ofMembers? (Part.ofMembers (assemble type parts)) =
      ofParts? type (parts.map (Option.map Part.ofDocument)) := by
  have htype : Part.only? [.text "type"] (Part.ofMembers (assemble type parts)) =
      some (some (Part.ofDocument (.string type.name))) := by
    rw [Part.only?_ofMembers "type" nodup_names_assemble fun other ↦ by simp]
    exact congrArg (some ∘ Option.map Part.ofDocument) List.lookup_cons_self
  have hname : (Part.ofDocument (.string type.name)).type? = some type := type.ofName?_name
  unfold ofMembers?
  rw [htype]
  simp only [Option.bind_eq_bind, Option.bind_some, hname]
  exact ofTypeAndMembers?_assemble hlength

theorem fieldOfMembers?_assemble {name : String} (hlength : parts.length = type.keys.length) :
    fieldOfMembers? (Part.ofMembers (("name", .string name) :: assemble type parts)) =
      (ofParts? type (parts.map (Option.map Part.ofDocument))).map (name, ·) := by
  have hnames : ((("name", Document.string name) :: assemble type parts).map Prod.fst).Nodup := by
    refine List.nodup_cons.2 ⟨fun hmem ↦ ?_, nodup_names_assemble⟩
    obtain ⟨member, hmember, heq⟩ := List.mem_map.1 hmem
    exact ne_name_of_mem_assemble member hmember heq
  have hname : Part.only? [.text "name"]
      (Part.ofMembers (("name", .string name) :: assemble type parts)) =
        some (some (Part.ofDocument (.string name))) := by
    rw [Part.only?_ofMembers "name" hnames fun other ↦ by simp]
    exact congrArg (some ∘ Option.map Part.ofDocument) List.lookup_cons_self
  have hothers : (Part.ofMembers (("name", .string name) :: assemble type parts)).filter
      (fun part ↦ part.1 ≠ .text "name") = Part.ofMembers (assemble type parts) := by
    rw [Part.ofMembers, List.map_cons, List.filter_cons_of_neg (by simp)]
    apply List.filter_eq_self.2
    intro part hpart
    obtain ⟨member, hmember, rfl⟩ := List.mem_map.1 hpart
    simpa using ne_name_of_mem_assemble member hmember
  have hread := ofMembers?_assemble hlength
  rw [← hothers] at hread
  unfold fieldOfMembers?
  split
  next hcollection => simp [Part.ofMembers] at hcollection
  next =>
    rw [hname]
    exact Option.map_eq_bind.symm.trans (congrArg (Option.map (name, ·)) hread)

/-! ## Descriptors -/

mutual

/-- The members of every object inside a default value are in the order of their keys. -/
def HasWellFormedDefaults : Descriptor → Prop
  | array d | set d | indexed d | optional d | nullable d => d.HasWellFormedDefaults
  | tuple items | union items => HaveWellFormedDefaults items
  | object fields _ => FieldsHaveWellFormedDefaults fields
  | orDefault d value => d.HasWellFormedDefaults ∧ value.WellFormed
  | string _ _ | number _ | integer _ | boolean _ | datetime | reference _ => True

def HaveWellFormedDefaults : List Descriptor → Prop
  | [] => True
  | d :: rest => d.HasWellFormedDefaults ∧ HaveWellFormedDefaults rest

def FieldsHaveWellFormedDefaults : List (String × Descriptor) → Prop
  | [] => True
  | (_, d) :: rest => d.HasWellFormedDefaults ∧ FieldsHaveWellFormedDefaults rest

end

theorem length_parts (d : Descriptor) : d.parts.length = d.type.keys.length := by
  cases d <;> rfl

theorem flag?_flagPart (flag : Bool) :
    Part.flag? ((flagPart flag).map Part.ofDocument) = some flag := by
  cases flag <;> rfl

theorem pattern?_ofDocument (pattern : Option String) :
    Part.pattern? ((pattern.map Document.string).map Part.ofDocument) = some pattern := by
  cases pattern <;> rfl

mutual

/-- The parts of a descriptor make it up again. -/
theorem ofParts?_parts : (d : Descriptor) → d.HasWellFormedDefaults →
    ofParts? d.type (d.parts.map (Option.map Part.ofDocument)) = some d
  | string coerces pattern, _ => by
    simp only [type, parts, List.map_cons, List.map_nil, ofParts?, flag?_flagPart,
      pattern?_ofDocument]
    rfl
  | number coerces, _ | integer coerces, _ | boolean coerces, _ => by
    simp only [type, parts, List.map_cons, List.map_nil, ofParts?, flag?_flagPart, Option.map_some]
  | datetime, _ => rfl
  | array d, h => congrArg (Option.map array) (descriptor_ofDocument d h)
  | set d, h => congrArg (Option.map set) (descriptor_ofDocument d h)
  | tuple items, h => congrArg (Option.map tuple) (descriptors_ofDocument items h)
  | object fields denyUnknown, h => by
    simp only [type, parts, List.map_cons, List.map_nil, ofParts?, Option.map_some,
      fields_ofDocument fields h, flag?_flagPart]
    rfl
  | indexed d, h => congrArg (Option.map indexed) (descriptor_ofDocument d h)
  | optional d, h => congrArg (Option.map optional) (descriptor_ofDocument d h)
  | nullable d, h => congrArg (Option.map nullable) (descriptor_ofDocument d h)
  | orDefault d value, h => by
    have hvalue : (Part.ofDocument (.ofValue value)).transcript.value? = some value := by
      rw [Part.transcript_ofDocument]
      exact Document.value?_transcript_ofValue value h.2
    change (do
      return orDefault (← (Part.ofDocument d.toDocument).descriptor)
        (← (Part.ofDocument (.ofValue value)).transcript.value?)) = some (orDefault d value)
    rw [descriptor_ofDocument d h.1, hvalue]
    rfl
  | union items, h => congrArg (Option.map union) (descriptors_ofDocument items h)
  | reference name, _ => rfl

theorem descriptor_ofDocument (d : Descriptor) (h : d.HasWellFormedDefaults) :
    (Part.ofDocument d.toDocument).descriptor = some d := by
  rw [toDocument, Part.descriptor_ofDocument_object, ofMembers?_assemble d.length_parts]
  exact ofParts?_parts d h

theorem descriptors_ofDocument : (items : List Descriptor) → HaveWellFormedDefaults items →
    (Part.ofDocument (.array (itemDocuments items))).descriptors = some items
  | [], _ => rfl
  | d :: rest, h => by
    have hrest := descriptors_ofDocument rest h.2
    have hd : (Part.ofDocument (.object (assemble d.type d.parts))).descriptor = some d :=
      descriptor_ofDocument d h.1
    rw [Part.descriptors_ofDocument_array] at hrest ⊢
    rw [itemDocuments, List.map_cons, List.mapM_cons, hd, hrest]
    rfl

theorem fields_ofDocument : (fields : List (String × Descriptor)) →
    FieldsHaveWellFormedDefaults fields →
      (Part.ofDocument (.array (fieldDocuments fields))).fields = some fields
  | [], _ => rfl
  | (name, d) :: rest, h => by
    have hrest := fields_ofDocument rest h.2
    rw [Part.fields_ofDocument_array] at hrest ⊢
    rw [fieldDocuments, List.map_cons, List.mapM_cons, Part.field_ofDocument_object,
      fieldOfMembers?_assemble d.length_parts, ofParts?_parts d h.1, hrest]
    rfl

end

/-! ## Reading descriptors -/

/-- Members under other keys do not change what is known of the type. -/
theorem typeOfMembers_memberTranscripts {depth : Nat} {found : Option DescriptorType}
    {members : List (String × Document)} (hkeys : ∀ member ∈ members, member.1 ≠ "type")
    (hdepth : Transcript.levelsOfMembers (Document.memberTranscripts members) ≤ depth) :
    typeOfMembers depth found (Document.memberTranscripts members) = .ok found := by
  induction members with
  | nil => rfl
  | cons member rest ih =>
    obtain ⟨key, d⟩ := member
    obtain ⟨hkey, hrest⟩ := List.forall_mem_cons.1 hkeys
    have hlevels : max d.transcript.levels
        (Transcript.levelsOfMembers (Document.memberTranscripts rest)) ≤ depth := hdepth
    rw [Nat.max_le] at hlevels
    have hne : Key.text key ≠ .text "type" := fun heq ↦ hkey (Key.text.inj heq)
    rw [Document.memberTranscripts, typeOfMembers, if_neg hne,
      d.firstFault?_transcript hlevels.1]
    exact ih hrest hlevels.2

theorem typeOfMembers_assemble {type : DescriptorType} {parts : List (Option Document)}
    {depth : Nat}
    (hdepth : Transcript.levelsOfMembers (Document.memberTranscripts (assemble type parts)) ≤
      depth) :
    typeOfMembers depth none (Document.memberTranscripts (assemble type parts)) =
      .ok (some type) := by
  have hnames : ((assemble type parts).map Prod.fst).Nodup := nodup_names_assemble
  rw [assemble, List.map_cons, List.nodup_cons] at hnames
  have htype : typeOfTranscript (Document.string type.name).transcript = .ok type :=
    congrArg ReadError.ofOption type.ofName?_name
  rw [assemble] at hdepth ⊢
  rw [Document.memberTranscripts, typeOfMembers, if_pos rfl, htype]
  refine typeOfMembers_memberTranscripts (fun member hmember heq ↦ ?_) ?_
  · exact hnames.1 (List.mem_map.2 ⟨member, hmember, heq⟩)
  · exact Nat.le_trans (Nat.le_max_right _ _) hdepth

/-- The document of a descriptor is read as the descriptor. -/
theorem ofTranscript_toDocument {d : Descriptor} (h : d.HasWellFormedDefaults) {depth : Nat}
    (hdepth : d.toDocument.transcript.levels ≤ depth + 1) :
    ofTranscript depth d.toDocument.transcript = .ok d := by
  have hparts : ofTypeAndMembers? d.type (Part.ofMemberTranscripts
      (Document.memberTranscripts (assemble d.type d.parts))) = some d := by
    rw [Part.ofMemberTranscripts_memberTranscripts, ofTypeAndMembers?_assemble d.length_parts]
    exact ofParts?_parts d h
  rw [toDocument, Document.transcript, ofTranscript,
    typeOfMembers_assemble (Nat.le_of_succ_le_succ hdepth)]
  exact congrArg ReadError.ofOption hparts

end Descriptor

namespace CatalogSource

/-! ## Sources -/

/-- The names are in order, and so are the keys of the objects inside default values. -/
structure WellFormed (source : CatalogSource) : Prop where
  schemas : source.schemas.WellFormed
  defaults : ∀ entry ∈ source.schemas.entries, entry.2.HasWellFormedDefaults

/-- The members of the object of named descriptors. -/
def schemaDocuments (entries : List (String × Descriptor)) : List (String × Document) :=
  entries.map fun (name, d) ↦ (name, d.toDocument)

theorem readSchemas_schemaDocuments {limit : Nat} {entries : List (String × Descriptor)}
    (h : ∀ entry ∈ entries, entry.2.HasWellFormedDefaults)
    (hlimit : Transcript.levelsOfMembers (Document.memberTranscripts (schemaDocuments entries)) ≤
      limit - 3 + 1) (read : SortedMap String Descriptor) :
    readSchemas limit read (Document.memberTranscripts (schemaDocuments entries)) =
      .ok (read.insertAll entries) := by
  induction entries generalizing read with
  | nil => rfl
  | cons entry rest ih =>
    obtain ⟨hentry, hrest⟩ := List.forall_mem_cons.1 h
    have hlevels : max entry.2.toDocument.transcript.levels (Transcript.levelsOfMembers
        (Document.memberTranscripts (schemaDocuments rest))) ≤ limit - 3 + 1 := hlimit
    rw [Nat.max_le] at hlevels
    rw [schemaDocuments, List.map_cons, Document.memberTranscripts, readSchemas,
      Descriptor.ofTranscript_toDocument hentry hlevels.1]
    exact ih hrest hlevels.2 (read.insert entry.1 entry.2)

theorem schemasOfTranscript_schemaDocuments {source : CatalogSource} (h : source.WellFormed)
    {limit : Nat} (hlimit : Transcript.levelsOfMembers
      (Document.memberTranscripts (schemaDocuments source.schemas.entries)) ≤ limit - 3 + 1) :
    schemasOfTranscript limit
        (.object (Document.memberTranscripts (schemaDocuments source.schemas.entries)) none) =
      .ok source.schemas := by
  have hall : SortedMap.empty.insertAll source.schemas.entries = source.schemas :=
    congrArg SortedMap.mk (SortedMap.ofList_of_isAscending h.schemas)
  rw [schemasOfTranscript, readSchemas_schemaDocuments h.defaults hlimit, hall]
  rfl

/-- The document of a source is read as the source, if it may nest as deep as it does. -/
theorem ofTranscript_toDocument {source : CatalogSource} (h : source.WellFormed) {limit : Nat}
    (hlimit : source.toDocument.transcript.levels ≤ limit) :
    ofTranscript limit source.toDocument.transcript = .ok source := by
  have hlevels : max 0 (max (Transcript.levelsOfMembers (Document.memberTranscripts
      (schemaDocuments source.schemas.entries)) + 1) 0) + 1 ≤ limit := hlimit
  have hschemas : schemasOfTranscript limit _ = .ok source.schemas :=
    schemasOfTranscript_schemaDocuments h (by omega)
  have hmembers : readMembers limit none none [(.text "version", .string source.version),
      (.text "schemas", .object (Document.memberTranscripts
        (schemaDocuments source.schemas.entries)) none)] =
          .ok (some source.version, some source.schemas) := by
    simp only [readMembers, hschemas]
    rfl
  have htranscript : source.toDocument.transcript = .object [
      (.text "version", .string source.version), (.text "schemas", .object
        (Document.memberTranscripts (schemaDocuments source.schemas.entries)) none)] none := rfl
  rw [htranscript, ofTranscript, hmembers]
  rfl

/-- A source that is written as JSON text and read back is the same, whatever its descriptors and
default values are, if the reader of texts finds the document that was written in the text and lets
it nest as deep as it does. -/
theorem ofJsonWithin_write {source : CatalogSource} (h : source.WellFormed) {limit : Nat}
    (hlimit : source.toDocument.transcript.levels ≤ limit) {write : Document → String}
    (hwrite : Transcript.ofText (write source.toDocument) = (source.toDocument.transcript, none)) :
    ofJsonWithin limit (write source.toDocument) = .ok source := by
  unfold ofJsonWithin ReadError.readText
  rw [hwrite]
  simp only [ofTranscript_toDocument h hlimit]
  rfl

/-- Marks with a field of the same name as the key for the type, whose default is an object with a
member of this name too. -/
def markSource : CatalogSource :=
  ⟨"1", ⟨[("mark", .orDefault (.object [("type", .boolean true)] false)
    (.object [("type", .null)]))]⟩⟩

theorem markSource_wellFormed : markSource.WellFormed where
  schemas := List.pairwise_singleton _ _
  defaults := by simp [markSource, Descriptor.HasWellFormedDefaults,
    Descriptor.FieldsHaveWellFormedDefaults, Json.WellFormed, Json.WellFormedMembers, IsAscending]

set_option maxRecDepth 20000 in
theorem ofText_markSource :
    Transcript.ofText markSource.jsonText = (markSource.toDocument.transcript, none) := by
  rfl

theorem ofJson_markSource :
    markSource.WellFormed ∧ markSource.toDocument.transcript.levels ≤ Transcript.nestingLimit ∧
      Transcript.ofText markSource.jsonText = (markSource.toDocument.transcript, none) ∧
      ofJson markSource.jsonText = .ok markSource := by
  have hlimit : markSource.toDocument.transcript.levels ≤ Transcript.nestingLimit := by decide
  exact ⟨markSource_wellFormed, hlimit, ofText_markSource,
    ofJsonWithin_write markSource_wellFormed hlimit ofText_markSource⟩

end CatalogSource

end TwoWaySchema
