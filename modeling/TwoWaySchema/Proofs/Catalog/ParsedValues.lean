import TwoWaySchema.Proofs.Catalog.RoundTrip
import TwoWaySchema.Proofs.Catalog.Validation
import TwoWaySchema.Proofs.Json

/-!
# Values that were read

What a schema has read it accepts as valid.  That is so even of a value that did not come from the
data: a default stands in for a failure, and its own value was read by the schema that has the
default when the catalog was compiled.  Timestamps do not take part, because not every text that
they are read to is the text of a timestamp.
-/

namespace TwoWaySchema

/-- Every value that the schema reads, be it from nothing, is valid. -/
def Schema.ReadsValid (s : JsonSchema) : Prop :=
  ∀ input v, s.parseInput input = .ok v → s.validate v = true

namespace Schema.ReadsValid

open Descriptor

variable {s t : JsonSchema}

/-- A value that is its own untyped form is read from what is written for it. -/
theorem of_isNormalizing (h : IsNormalizing s) (hcheck : s.ChecksByReparsing) : s.ReadsValid := by
  intro input v hv
  cases input with
  | none => exact absurd hv (h.absent v)
  | some raw =>
    obtain ⟨hwrite, hread⟩ := h.normal raw v hv
    exact (hcheck v).2 ⟨v, hwrite, v, hread⟩

/-! ## Containers -/

theorem forall_mem {items values : List Json} (h : s.ReadsValid)
    (hread : List.Forall₂ (fun x a ↦ s.parse x = .ok a) items values) :
    ∀ a ∈ values, s.validate a = true := by
  intro a ha
  obtain ⟨x, -, hx⟩ := exists_of_forall₂_right hread a ha
  exact h (some x) a hx

theorem array (h : s.ReadsValid) (hexplained : ∀ x, (s.parse x).IsExplained) :
    (arraySchema s).ReadsValid := by
  intro input v hv
  obtain ⟨items, values, -, hread, rfl⟩ := (arraySchema_parseInput_eq_ok_iff hexplained).1 hv
  exact arraySchema_validate_iff.2 ⟨values, rfl, h.forall_mem hread⟩

/-- What is left when repeated elements are dropped has none. -/
theorem set (h : s.ReadsValid) (hexplained : ∀ x, (s.parse x).IsExplained) :
    (setSchema s).ReadsValid := by
  intro input v hv
  obtain ⟨items, values, -, hread, rfl⟩ := (setSchema_parseInput_eq_ok_iff hexplained).1 hv
  refine setSchema_validate_iff.2 ⟨_, rfl, Parts.areDistinct_dropRepeated values, ?_⟩
  exact fun a ha ↦ h.forall_mem hread a (Parts.mem_of_mem_dropRepeated a ha)

theorem sequence {ss : List JsonSchema} (h : ∀ s ∈ ss, s.ReadsValid)
    (hexplained : ∀ s ∈ ss, ∀ x, (s.parse x).IsExplained) : (Schema.sequence ss).ReadsValid := by
  intro input v hv
  obtain ⟨items, values, -, hitems, hread, rfl⟩ := (sequence_parseInput_eq_ok_iff hexplained).1 hv
  have hvalues : values.length = ss.length := by
    rw [← hread.length_eq, List.length_zip, hitems, Nat.min_self]
  refine sequence_validate_iff.2 ⟨values, rfl, hvalues, fun part hpart ↦ ?_⟩
  have hpairs := forall₂_zip_swap (r := fun s x a ↦ s.parse x = .ok a) hitems hread
  obtain ⟨x, -, hx⟩ := exists_of_forall₂_left hpairs part hpart
  exact h _ (List.of_mem_zip hpart).1 (some x) _ hx

theorem indexed (h : s.ReadsValid) (hexplained : ∀ x, (s.parse x).IsExplained) :
    (indexedSchema s).ReadsValid := by
  intro input v hv
  obtain ⟨members, entries, -, hread, rfl⟩ := (indexedSchema_parseInput_eq_ok_iff hexplained).1 hv
  refine indexedSchema_validate_iff.2 ⟨_, rfl, fun entry hentry ↦ ?_⟩
  rw [SortedMap.ofList_entries_ofList] at hentry
  obtain ⟨member, -, -, hmember⟩ :=
    exists_of_forall₂_right hread entry (SortedMap.mem_of_mem_ofList hentry)
  exact h _ _ hmember

/-- An object that was read has all its fields, so none of them is asked to read an absent value. -/
theorem record {fields : List (String × JsonSchema)} {denyUnknown : Bool}
    (hnames : (fields.map Prod.fst).Nodup) (h : ∀ field ∈ fields, field.2.ReadsValid)
    (hexplained : ∀ field ∈ fields, ∀ input, (field.2.parseInput input).IsExplained) :
    (recordSchema fields denyUnknown).ReadsValid := by
  intro input v hv
  obtain ⟨members, values, -, -, hread, rfl⟩ :=
    (recordSchema_parseInput_eq_ok_iff hnames hexplained).1 hv
  refine recordSchema_validate_iff.2 ⟨_, rfl, fun field hfield ↦ ?_⟩
  obtain ⟨a, hrow⟩ := exists_mem_zip hread.length_eq hfield
  rw [slot?_recordOfMembers_zip hnames hread.length_eq _ hrow]
  exact h field hfield _ a (List.forall₂_zip hread hrow)

/-! ## Wrappers and unions -/

theorem optional (h : s.ReadsValid) (hfits : ∀ input, (s.parseInput input).Fits input) :
    (optionalSchema s).ReadsValid := by
  intro input v hv
  apply optionalSchema_validate_iff.2
  rcases (optionalSchema_parseInput_eq_ok_iff (hfits input)).1 hv with hread | ⟨-, hnull, -⟩
  · exact .inr (h input v hread)
  · exact .inl hnull

theorem nullable (h : s.ReadsValid) : (nullableSchema s).ReadsValid := by
  intro input v hv
  apply nullableSchema_validate_iff.2
  by_cases hnull : input = some .null
  · subst hnull
    exact .inl (Except.ok.inj hv).symm
  · rw [nullableSchema_parseInput_of_ne hnull] at hv
    exact .inr (h input v hv)

/-- The value of a default was itself read by the schema that has the default. -/
theorem orDefault {raw value : Json} (h : s.ReadsValid) (hvalue : s.parse raw = .ok value) :
    (s.orDefault value).ReadsValid := by
  intro input v hv
  rw [orDefault_validate]
  rcases orDefault_parseInput_eq_ok_iff.1 hv with hread | ⟨rfl, -⟩
  · exact h input v hread
  · exact h (some raw) v hvalue

theorem or (hs : s.ReadsValid) (ht : t.ReadsValid) : (s.or t).ReadsValid := by
  intro input v hv
  exact or_validate_iff.2 ((or_parseInput_eq_ok hv).imp (hs input v) (ht input v))

end Schema.ReadsValid

/-! ## Denotations -/

namespace Descriptor

variable {ρ : Type} [Regex.Engine ρ] {entries : List (String × Descriptor)} {d : Descriptor}
  {s : JsonSchema}

/-- What the schema of a descriptor without timestamps reads is valid. -/
theorem Denotes.readsValid (hs : Denotes entries d s)
    (h : Throughout entries (fun node ↦ node ≠ .datetime) d) : s.ReadsValid := by
  induction hs with
  | string | pattern =>
    exact .of_isNormalizing stringSchema_isNormalizing stringSchema_checksByReparsing
  | number => exact .of_isNormalizing numberSchema_isNormalizing numberSchema_checksByReparsing
  | integer => exact .of_isNormalizing integerSchema_isNormalizing integerSchema_checksByReparsing
  | boolean => exact .of_isNormalizing booleanSchema_isNormalizing booleanSchema_checksByReparsing
  | datetime => exact absurd rfl h.self
  | @array d t hitems ih =>
    exact (ih (h.child (List.mem_singleton_self d))).array fun x ↦ hitems.isExplained _
  | @set d t hitems ih =>
    exact (ih (h.child (List.mem_singleton_self d))).set fun x ↦ hitems.isExplained _
  | @indexed d t hvalues ih =>
    exact (ih (h.child (List.mem_singleton_self d))).indexed fun x ↦ hvalues.isExplained _
  | @tuple ds t ts length items ih =>
    refine .sequence (forall_mem_of_forall_mem_zip length fun item hitem ↦ ?_)
      fun s hs x ↦ isExplained_of_zip length items s hs _
    exact ih item hitem (h.child (List.of_mem_zip hitem).1)
  | @object fields denyUnknown ts t length items hobject ih =>
    obtain ⟨hnames, rfl⟩ := objectSchema_eq_ok_iff.1 hobject
    refine .record hnames.2 ?_ (isExplained_of_fields length items)
    apply forall_mem_zip_fst (p := Schema.ReadsValid) length
    intro item hitem
    exact ih item hitem (h.child (List.of_mem_zip hitem).1)
  | @optional d t hinner ih =>
    exact (ih (h.child (List.mem_singleton_self d))).optional hinner.fits
  | @nullable d t hinner ih => exact (ih (h.child (List.mem_singleton_self d))).nullable
  | @orDefault d t raw value hinner hvalue ih =>
    exact (ih (h.child (List.mem_singleton_self d))).orDefault hvalue
  | @union ds t ts length items ih =>
    refine unionSchema_of_or (fun _ _ hs ht ↦ hs.or ht)
      (forall_mem_of_forall_mem_zip length fun item hitem ↦ ?_)
    exact ih item hitem (h.child (List.of_mem_zip hitem).1)
  | @reference name target t hlookup htarget ih => exact ih (h.step (.inr ⟨name, rfl, hlookup⟩))

end Descriptor

/-! ## Catalogs -/

namespace Catalog

/-- In a catalog a value that was read is valid, also where it was left to a default, if no
timestamp is involved. -/
theorem validate_of_parseInput {ρ : Type} [Regex.Engine ρ] {source : CatalogSource}
    {catalog : Catalog} {name : String} {s : JsonSchema} (h : source.compile = .ok catalog)
    (hs : catalog.get name = .ok s)
    (hdatetime : Descriptor.Throughout source.schemas.entries (fun d ↦ d ≠ .datetime)
      (.reference name)) {input : Option Json} {v : Json} (hv : s.parseInput input = .ok v) :
    s.validate v = true :=
  (CatalogSource.denotes_of_get h hs).readsValid hdatetime input v hv

/-! ## Notes with tags -/

open Descriptor

/-- Notes with a set of tags, which are numbers or texts.  A note without tags is new, which its
default says twice.  A label is a text that can be left out, with a time that can be unknown. -/
def noteSource : CatalogSource :=
  ⟨"1", ⟨[("label", .object [("text", .optional (.reference "text")),
      ("time", .nullable .datetime)] true),
    ("note", .object [("tags", .orDefault (.set (.union [.integer false, .reference "text"]))
      (.array [.string "new", .string "new"]))] false),
    ("text", .string false none)]⟩⟩

def textSchema : JsonSchema :=
  stringSchema false none

def labelSchema : JsonSchema :=
  recordSchema [("text", optionalSchema textSchema), ("time", nullableSchema datetimeSchema)] true

def tagsSchema : JsonSchema :=
  setSchema (unionSchema (integerSchema false) [textSchema])

def noteSchema : JsonSchema :=
  recordSchema [("tags", tagsSchema.orDefault (.array [.string "new"]))] false

theorem tagsSchema_parse_new : tagsSchema.parse (.array [.string "new", .string "new"]) =
    .ok (.array [.string "new"]) := rfl

theorem textSchema_denoted :
    Denotes noteSource.schemas.entries (.reference "text") textSchema :=
  .reference rfl (.string false)

theorem labelSchema_denoted :
    Denotes noteSource.schemas.entries (.reference "label") labelSchema := by
  have hlabel : objectSchema [("text", optionalSchema textSchema),
      ("time", nullableSchema datetimeSchema)] true = .ok labelSchema :=
    objectSchema_eq_ok_iff.2 ⟨⟨by decide, by decide⟩, rfl⟩
  refine .reference rfl (@Denotes.object _ _ _ _ _
    [optionalSchema textSchema, nullableSchema datetimeSchema] _ rfl ?_ hlabel)
  simpa using ⟨textSchema_denoted.optional, Denotes.datetime.nullable⟩

theorem tagsSchema_denoted : Denotes noteSource.schemas.entries
    (.set (.union [.integer false, .reference "text"])) tagsSchema := by
  refine .set (@Denotes.union _ _ _ _ _ [textSchema] rfl ?_)
  simpa using ⟨Denotes.integer false, textSchema_denoted⟩

theorem noteSchema_denoted :
    Denotes noteSource.schemas.entries (.reference "note") noteSchema := by
  have hnote : objectSchema [("tags", tagsSchema.orDefault (.array [.string "new"]))] false =
      .ok noteSchema :=
    objectSchema_eq_ok_iff.2 ⟨⟨by decide, by decide⟩, rfl⟩
  refine .reference rfl (@Denotes.object _ _ _ _ _
    [tagsSchema.orDefault (.array [.string "new"])] _ rfl ?_ hnote)
  simpa using tagsSchema_denoted.orDefault tagsSchema_parse_new

theorem noteSource_isDenoting : noteSource.IsDenoting := by
  intro name hname
  simp only [noteSource, SortedMap.keys, List.map, List.mem_cons, List.not_mem_nil, or_false]
    at hname
  obtain rfl | rfl | rfl := hname
  · exact ⟨_, labelSchema_denoted⟩
  · exact ⟨_, noteSchema_denoted⟩
  · exact ⟨_, textSchema_denoted⟩

theorem exists_noteCatalog : ∃ catalog, noteSource.compile = .ok catalog ∧
    catalog.get "label" = .ok labelSchema ∧ catalog.get "note" = .ok noteSchema := by
  obtain ⟨catalog, h⟩ := CatalogSource.exists_compile_iff_isDenoting.2 noteSource_isDenoting
  exact ⟨catalog, h, (CatalogSource.get_eq_ok_iff h).2 labelSchema_denoted,
    (CatalogSource.get_eq_ok_iff h).2 noteSchema_denoted⟩

/-- All that is inside a note. -/
def noteNodes : List Descriptor :=
  [.reference "note",
    .object [("tags", .orDefault (.set (.union [.integer false, .reference "text"]))
      (.array [.string "new", .string "new"]))] false,
    .orDefault (.set (.union [.integer false, .reference "text"]))
      (.array [.string "new", .string "new"]),
    .set (.union [.integer false, .reference "text"]), .union [.integer false, .reference "text"],
    .integer false, .reference "text", .string false none]

theorem note_throughout :
    Throughout noteSource.schemas.entries (fun d ↦ d ≠ .datetime) (.reference "note") := by
  have hroot : .reference "note" ∈ noteNodes := List.mem_cons_self
  refine .of_closed hroot ?_ ?_
  · simp [noteNodes, LeadsTo, children, noteSource, List.lookup_cons]
  · simp [noteNodes]

theorem note_without_tags_validate : ∃ catalog, noteSource.compile = .ok catalog ∧
    catalog.get "note" = .ok noteSchema ∧
      Throughout noteSource.schemas.entries (fun d ↦ d ≠ .datetime) (.reference "note") ∧
        noteSchema.parseInput (some (.object [])) =
          .ok (.object [("tags", .array [.string "new"])]) ∧
        noteSchema.validate (.object [("tags", .array [.string "new"])]) = true := by
  obtain ⟨catalog, h, -, hnote⟩ := exists_noteCatalog
  have hread : noteSchema.parseInput (some (.object [])) =
      .ok (.object [("tags", .array [.string "new"])]) := rfl
  exact ⟨catalog, h, hnote, note_throughout, hread,
    validate_of_parseInput h hnote note_throughout hread⟩

end Catalog

end TwoWaySchema
