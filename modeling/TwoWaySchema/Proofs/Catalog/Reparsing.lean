import TwoWaySchema.Proofs.Catalog.Null
import TwoWaySchema.Proofs.Catalog.ParsedValues

/-!
# Validity by writing and reading again

A schema without defaults, sets and unions accepts exactly the values that it can write and read
again.  In a field this is about what the field holds, which may be nothing.  The two agree, because
a schema that leaves a value out reads an absent value and, in its place, a null.
-/

namespace TwoWaySchema

open Descriptor

/-! ## What is accepted -/

section Reads

variable {s t : JsonSchema} {ss : List JsonSchema} {fields : List (String × JsonSchema)}
  {denyUnknown : Bool} {input : Option Json} {value : Json}

theorem arraySchema_reads_iff (h : ∀ x, (s.parse x).IsExplained) {xs : List Json} :
    (arraySchema s).Reads (some (.array xs)) ↔ ∀ x ∈ xs, s.Reads (some x) := by
  refine Iff.trans ?_ exists_forall₂_iff
  constructor
  · rintro ⟨v, hv⟩
    obtain ⟨items, values, hitems, hread, -⟩ := (arraySchema_parseInput_eq_ok_iff h).1 hv
    cases hitems
    exact ⟨values, hread⟩
  · rintro ⟨values, hread⟩
    exact ⟨_, (arraySchema_parseInput_eq_ok_iff h).2 ⟨xs, values, rfl, hread, rfl⟩⟩

theorem sequence_reads_iff (h : ∀ s ∈ ss, ∀ x, (s.parse x).IsExplained) {xs : List Json} :
    (Schema.sequence ss).Reads (some (.array xs)) ↔
      List.Forall₂ (fun s x ↦ s.Reads (some x)) ss xs := by
  rw [List.forall₂_iff_zip]
  constructor
  · rintro ⟨v, hv⟩
    obtain ⟨items, values, hitems, hlength, hread, -⟩ := (sequence_parseInput_eq_ok_iff h).1 hv
    cases hitems
    exact ⟨hlength.symm, fun hpart ↦ exists_forall₂_iff.1 ⟨values, hread⟩ _ hpart⟩
  · rintro ⟨hlength, hall⟩
    have hread : ∀ part ∈ ss.zip xs, ∃ a, part.1.parse part.2 = .ok a := fun _ hpart ↦ hall hpart
    obtain ⟨values, hvalues⟩ := exists_forall₂ hread
    exact ⟨_, (sequence_parseInput_eq_ok_iff h).2 ⟨xs, values, rfl, hlength.symm, hvalues, rfl⟩⟩

theorem indexedSchema_reads_iff (h : ∀ x, (s.parse x).IsExplained)
    {members : List (String × Json)} :
    (indexedSchema s).Reads (some (.object members)) ↔
      ∀ member ∈ members, s.Reads (some member.2) := by
  constructor
  · rintro ⟨v, hv⟩ member hmember
    obtain ⟨_, entries, hmembers, hread, -⟩ := (indexedSchema_parseInput_eq_ok_iff h).1 hv
    cases hmembers
    obtain ⟨entry, -, -, hentry⟩ := exists_of_forall₂_left hread member hmember
    exact ⟨entry.2, hentry⟩
  · intro hall
    have hread : ∀ member ∈ members, ∃ entry : String × Json,
        entry.1 = member.1 ∧ s.parse member.2 = .ok entry.2 := by
      intro member hmember
      obtain ⟨a, ha⟩ := hall member hmember
      exact ⟨(member.1, a), rfl, ha⟩
    obtain ⟨entries, hentries⟩ := exists_forall₂ hread
    exact ⟨_, (indexedSchema_parseInput_eq_ok_iff h).2 ⟨members, entries, rfl, hentries, rfl⟩⟩

/-- What was written for the fields of an object is accepted when each of them accepts its part. -/
theorem recordSchema_reads_written_iff {written : List (Option Json)}
    (hnames : (fields.map Prod.fst).Nodup) (hlength : fields.length = written.length)
    (h : ∀ field ∈ fields, ∀ input, (field.2.parseInput input).IsExplained) :
    (recordSchema fields denyUnknown).Reads
        (some (.ofMembers (presentMembers (fields.map Prod.fst) written))) ↔
      List.Forall₂ (fun field f ↦ field.2.Reads f) fields written := by
  rw [List.forall₂_iff_zip]
  constructor
  · rintro ⟨v, hv⟩
    obtain ⟨values, hread, -⟩ := (recordSchema_parse_written_eq_ok_iff hnames hlength h).1 hv
    exact ⟨hlength, fun hrow ↦ exists_forall₂_iff.1 ⟨values, hread⟩ _ hrow⟩
  · rintro ⟨-, hall⟩
    have hread : ∀ row ∈ fields.zip written, ∃ a, row.1.2.parseInput row.2 = .ok a :=
      fun _ hrow ↦ hall hrow
    obtain ⟨values, hvalues⟩ := exists_forall₂ hread
    exact ⟨_, (recordSchema_parse_written_eq_ok_iff hnames hlength h).2 ⟨values, hvalues, rfl⟩⟩

theorem optionalSchema_reads_iff (h : (s.parseInput input).Fits input) :
    (optionalSchema s).Reads input ↔ s.Reads input ∨ IsVacant input := by
  constructor
  · rintro ⟨v, hv⟩
    rcases (optionalSchema_parseInput_eq_ok_iff h).1 hv with hread | ⟨hvacant, -⟩
    · exact .inl ⟨v, hread⟩
    · exact .inr hvacant
  · intro haccepts
    cases hinner : s.parseInput input with
    | ok a => exact ⟨a, optionalSchema_parseInput_of_ok hinner⟩
    | error failure =>
      rcases haccepts with ⟨a, ha⟩ | hvacant
      · cases hinner.symm.trans ha
      · refine ⟨.null, (optionalSchema_parseInput_eq_ok_iff h).2 (.inr ⟨hvacant, rfl, ?_⟩)⟩
        rw [hinner]
        exact nofun

theorem nullableSchema_reads_iff :
    (nullableSchema s).Reads input ↔ s.Reads input ∨ input = some .null := by
  by_cases hnull : input = some .null
  · subst hnull
    exact iff_of_true ⟨.null, rfl⟩ (.inr rfl)
  · rw [Schema.Reads, nullableSchema_parseInput_of_ne hnull, or_iff_left hnull]
    rfl

theorem orDefault_reads : (s.orDefault value).Reads input := by
  cases hinner : s.parseInput input with
  | ok a => exact ⟨a, orDefault_parseInput_eq_ok_iff.2 (.inl hinner)⟩
  | error failure =>
    refine ⟨value, orDefault_parseInput_eq_ok_iff.2 (.inr ⟨rfl, ?_⟩)⟩
    rw [hinner]
    exact nofun

theorem or_reads (h : s.Reads input ∨ t.Reads input) : (s.or t).Reads input := by
  change ∃ v, (Shape.union s.shape t.shape).parse input = .ok v
  rw [Shape.parse]
  unfold Parts.readEither
  cases hs : s.shape.parse input with
  | ok a => exact ⟨a, rfl⟩
  | error failure =>
    rcases h with ⟨a, ha⟩ | ⟨b, hb⟩
    · cases hs.symm.trans ha
    · have ht : t.shape.parse input = .ok b := hb
      exact ⟨b, by simp only [Thunk.get, ht]⟩

end Reads

/-! ## Containers and wrappers -/

/-- In a field a value is valid exactly when what the field then holds, if anything, can be read. -/
def Schema.ChecksFieldByReparsing (s : JsonSchema) : Prop :=
  ∀ a, s.validate a = true ↔ ∃ f, s.serializeField a = .ok f ∧ s.Reads f

namespace Schema.ChecksByReparsing

variable {s t : JsonSchema}

/-- Values are valid when they are written one by one to what can be read. -/
theorem forall_mem_validate_iff (h : s.ChecksByReparsing) {values : List Json} :
    (∀ a ∈ values, s.validate a = true) ↔ ∃ xs,
      List.Forall₂ (fun a x ↦ s.serialize a = .ok x) values xs ∧ ∀ x ∈ xs, s.Reads (some x) := by
  simp only [h _, ← exists_forall₂_iff, forall₂_and_right_iff]

theorem array (h : s.ChecksByReparsing) (hexplained : ∀ x, (s.parse x).IsExplained) :
    (arraySchema s).ChecksByReparsing := by
  intro v
  rw [arraySchema_validate_iff]
  simp only [h.forall_mem_validate_iff, arraySchema_serialize_eq_ok_iff]
  constructor
  · rintro ⟨values, rfl, xs, hwrite, hread⟩
    exact ⟨_, ⟨values, xs, rfl, hwrite, rfl⟩, (arraySchema_reads_iff hexplained).2 hread⟩
  · rintro ⟨_, ⟨values, xs, rfl, hwrite, rfl⟩, hread⟩
    exact ⟨values, rfl, xs, hwrite, (arraySchema_reads_iff hexplained).1 hread⟩

/-- Values are valid for the schemas of their positions when they are written to what these can
read. -/
theorem forall_mem_zip_validate_iff {ss : List JsonSchema} (h : ∀ s ∈ ss, s.ChecksByReparsing)
    {values : List Json} (hlength : values.length = ss.length) :
    (∀ part ∈ ss.zip values, part.1.validate part.2 = true) ↔
      ∃ xs, List.Forall₂ (fun part x ↦ part.1.serialize part.2 = .ok x) (ss.zip values) xs ∧
        List.Forall₂ (fun s x ↦ s.Reads (some x)) ss xs := by
  have hparts : (∀ part ∈ ss.zip values, part.1.validate part.2 = true) ↔
      ∀ part ∈ ss.zip values, ∃ x, part.1.serialize part.2 = .ok x ∧ part.1.Reads (some x) :=
    forall₂_congr fun part hpart ↦ h part.1 (List.of_mem_zip hpart).1 part.2
  rw [hparts, ← exists_forall₂_iff]
  refine exists_congr fun xs ↦ forall₂_and_iff.trans (and_congr_right fun _ ↦ ?_)
  have hschemas : List.Forall₂ (fun s x ↦ s.Reads (some x)) ss xs ↔
      List.Forall₂ (fun part x ↦ part.1.Reads (some x)) (ss.zip values) xs :=
    forall₂_iff_forall₂_zip hlength.symm fun _ _ _ ↦ Iff.rfl
  exact hschemas.symm

theorem sequence {ss : List JsonSchema} (h : ∀ s ∈ ss, s.ChecksByReparsing)
    (hexplained : ∀ s ∈ ss, ∀ x, (s.parse x).IsExplained) :
    (Schema.sequence ss).ChecksByReparsing := by
  intro v
  rw [sequence_validate_iff]
  simp only [sequence_serialize_eq_ok_iff]
  constructor
  · rintro ⟨values, rfl, hlength, hvalid⟩
    obtain ⟨xs, hwrite, hread⟩ := (forall_mem_zip_validate_iff h hlength).1 hvalid
    exact ⟨_, ⟨values, xs, rfl, hlength, hwrite, rfl⟩, (sequence_reads_iff hexplained).2 hread⟩
  · rintro ⟨_, ⟨values, xs, rfl, hlength, hwrite, rfl⟩, hread⟩
    refine ⟨values, rfl, hlength, (forall_mem_zip_validate_iff h hlength).2 ⟨xs, hwrite, ?_⟩⟩
    exact (sequence_reads_iff hexplained).1 hread

theorem forall_mem_entries_validate_iff (h : s.ChecksByReparsing)
    {entries : List (String × Json)} :
    (∀ entry ∈ entries, s.validate entry.2 = true) ↔ ∃ written : List (String × Json),
      List.Forall₂ (fun entry member ↦ member.1 = entry.1 ∧ s.serialize entry.2 = .ok member.2)
        entries written ∧ ∀ member ∈ written, s.Reads (some member.2) := by
  have hentry : ∀ entry : String × Json, s.validate entry.2 = true ↔ ∃ member : String × Json,
      (member.1 = entry.1 ∧ s.serialize entry.2 = .ok member.2) ∧ s.Reads (some member.2) := by
    intro entry
    rw [h entry.2]
    constructor
    · rintro ⟨w, hw, hread⟩
      exact ⟨(entry.1, w), ⟨rfl, hw⟩, hread⟩
    · rintro ⟨member, ⟨-, hw⟩, hread⟩
      exact ⟨member.2, hw, hread⟩
  simp only [hentry, ← exists_forall₂_iff, forall₂_and_right_iff]

/-- The entries of an object are written under their names, in the order in which they are kept. -/
theorem indexed (h : s.ChecksByReparsing) (hexplained : ∀ x, (s.parse x).IsExplained) :
    (indexedSchema s).ChecksByReparsing := by
  have hsorted : ∀ members written : List (String × Json), List.Forall₂
      (fun entry member ↦ member.1 = entry.1 ∧ s.serialize entry.2 = .ok member.2)
        (SortedMap.ofList members).entries written → Json.ofMembers written = .object written :=
    fun _ _ hwrite ↦ ofMembers_written (hwrite.imp fun _ _ hmember ↦ hmember.1)
  intro v
  rw [indexedSchema_validate_iff]
  simp only [h.forall_mem_entries_validate_iff, indexedSchema_serialize_eq_ok_iff]
  constructor
  · rintro ⟨members, rfl, written, hwrite, hread⟩
    refine ⟨_, ⟨members, written, rfl, hwrite, rfl⟩, ?_⟩
    rw [hsorted members written hwrite]
    exact (indexedSchema_reads_iff hexplained).2 hread
  · rintro ⟨_, ⟨members, written, rfl, hwrite, rfl⟩, hread⟩
    rw [hsorted members written hwrite] at hread
    exact ⟨members, rfl, written, hwrite, (indexedSchema_reads_iff hexplained).1 hread⟩

/-- A field that is there is written and read again, and one that is not there is read from nothing,
which is also what is written for it. -/
theorem acceptsSlot_iff (h : s.ChecksFieldByReparsing) {slot : Option Json} :
    AcceptsSlot s slot ↔ ∃ f, Writes s slot f ∧ s.Reads f := by
  cases slot with
  | none =>
    constructor
    · exact fun hread ↦ ⟨none, rfl, hread⟩
    · rintro ⟨_, rfl, hread⟩
      exact hread
  | some a => exact h a

theorem record {fields : List (String × JsonSchema)} {denyUnknown : Bool}
    (hnames : (fields.map Prod.fst).Nodup)
    (h : ∀ field ∈ fields, field.2.ChecksFieldByReparsing)
    (hexplained : ∀ field ∈ fields, ∀ input, (field.2.parseInput input).IsExplained) :
    (recordSchema fields denyUnknown).ChecksByReparsing := by
  have hslots : ∀ members, (∀ field ∈ fields, AcceptsSlot field.2
      ((recordOfMembers members).slot? field.1)) ↔ ∃ written, List.Forall₂
        (fun field f ↦ Writes field.2 ((recordOfMembers members).slot? field.1) f) fields written ∧
          List.Forall₂ (fun field f ↦ field.2.Reads f) fields written := by
    intro members
    rw [forall₂_congr fun field hfield ↦ acceptsSlot_iff (h field hfield), ← exists_forall₂_iff]
    simp only [forall₂_and_iff]
  intro v
  rw [recordSchema_validate_iff]
  simp only [hslots, recordSchema_serialize_eq_ok_iff]
  constructor
  · rintro ⟨members, rfl, written, hwrite, hread⟩
    refine ⟨_, ⟨members, written, rfl, hwrite, rfl⟩, ?_⟩
    exact (recordSchema_reads_written_iff hnames hwrite.length_eq hexplained).2 hread
  · rintro ⟨_, ⟨members, written, rfl, hwrite, rfl⟩, hread⟩
    refine ⟨members, rfl, written, hwrite, ?_⟩
    exact (recordSchema_reads_written_iff hnames hwrite.length_eq hexplained).1 hread

/-- A schema that takes null for null, and all else like another one that keeps null. -/
theorem of_null (h : s.ChecksByReparsing) (hnull : s.KeepsNull)
    (hvalidate : ∀ v, t.validate v = true ↔ v = .null ∨ s.validate v = true)
    (hwrite : t.serialize .null = .ok .null)
    (hserialize : ∀ v, v ≠ .null → t.serialize v = s.serialize v)
    (hreads : ∀ w, t.Reads (some w) ↔ s.Reads (some w) ∨ w = .null) : t.ChecksByReparsing := by
  intro v
  rw [hvalidate]
  by_cases hv : v = .null
  · subst hv
    exact iff_of_true (.inl rfl) ⟨.null, hwrite, (hreads .null).2 (.inr rfl)⟩
  · -- What is written for anything but null is not null, so the other schema is the one to read it.
    rw [or_iff_right hv, h v, hserialize v hv]
    refine exists_congr fun w ↦ and_congr_right fun hw ↦ ?_
    rw [hreads, or_iff_left (mt (hnull v w hw).1 hv)]

theorem optional (h : s.ChecksByReparsing) (hnull : s.KeepsNull)
    (hfits : ∀ input, (s.parseInput input).Fits input) :
    (optionalSchema s).ChecksByReparsing := by
  refine h.of_null hnull (fun _ ↦ optionalSchema_validate_iff) rfl
    (fun _ ↦ optionalSchema_serialize_of_ne) fun w ↦ ?_
  rw [optionalSchema_reads_iff (hfits _)]
  simp [IsVacant]

theorem nullable (h : s.ChecksByReparsing) (hnull : s.KeepsNull) :
    (nullableSchema s).ChecksByReparsing := by
  refine h.of_null hnull (fun _ ↦ nullableSchema_validate_iff) rfl
    (fun _ ↦ nullableSchema_serialize_of_ne) fun w ↦ ?_
  rw [nullableSchema_reads_iff, Option.some.injEq]

end Schema.ChecksByReparsing

/-! ## Denotations -/

namespace Descriptor

variable {ρ : Type} [Regex.Engine ρ] {entries : List (String × Descriptor)} {d : Descriptor}
  {s : JsonSchema} {v : Json}

theorem not_omitted_of_plain (h : ∀ a, s.serializeField a = (s.serialize a).map some) :
    s.serializeField v ≠ .ok none := by
  rw [h]
  intro homitted
  obtain ⟨w, -, hw⟩ := map_eq_ok_iff.1 homitted
  cases hw

/-- Where a value is left out, its schema accepts that there is none, and a null too. -/
theorem Denotes.reads_of_omitted (hs : Denotes entries d s)
    (h : s.serializeField v = .ok none) : s.Reads none ∧ s.Reads (some .null) := by
  induction hs with
  | string | pattern => exact absurd h (not_omitted_of_plain stringSchema_isNormalizing.plain)
  | number => exact absurd h (not_omitted_of_plain numberSchema_isNormalizing.plain)
  | integer => exact absurd h (not_omitted_of_plain integerSchema_isNormalizing.plain)
  | boolean => exact absurd h (not_omitted_of_plain booleanSchema_isNormalizing.plain)
  | datetime | array | set | indexed =>
    exact absurd h (not_omitted_of_plain (Schema.map_serializeField_of_plain fun _ ↦ rfl))
  | tuple => exact absurd h (not_omitted_of_plain fun _ ↦ rfl)
  | object _ _ hobject =>
    obtain ⟨-, rfl⟩ := objectSchema_eq_ok_iff.1 hobject
    exact absurd h (not_omitted_of_plain (Schema.map_serializeField_of_plain fun _ ↦ rfl))
  | optional inner =>
    exact ⟨(optionalSchema_reads_iff (inner.fits _)).2 (.inr (.inl rfl)),
      (optionalSchema_reads_iff (inner.fits _)).2 (.inr (.inr rfl))⟩
  | nullable =>
    exact absurd h (not_omitted_of_plain fun _ ↦ nullableSchema_serializeField)
  | orDefault => exact ⟨orDefault_reads, orDefault_reads⟩
  | @union ds t ts length items ih =>
    have hor : ∀ s t : JsonSchema,
        (s.serializeField v = .ok none → s.Reads none ∧ s.Reads (some .null)) →
        (t.serializeField v = .ok none → t.Reads none ∧ t.Reads (some .null)) →
        (s.or t).serializeField v = .ok none →
          (s.or t).Reads none ∧ (s.or t).Reads (some .null) := by
      intro s t hs ht homitted
      rcases Writer.firstMatching_eq_ok homitted with hfirst | hsecond
      · exact ⟨or_reads (.inl (hs hfirst).1), or_reads (.inl (hs hfirst).2)⟩
      · exact ⟨or_reads (.inr (ht hsecond).1), or_reads (.inr (ht hsecond).2)⟩
    exact unionSchema_of_or hor (forall_mem_of_forall_mem_zip length ih) h
  | reference _ _ ih => exact ih h

/-- A schema that accepts what it can write and read again does so in a field too. -/
theorem Denotes.checksFieldByReparsing (hs : Denotes entries d s) (h : s.ChecksByReparsing) :
    s.ChecksFieldByReparsing := by
  intro v
  rw [h v, s.serialize_eq_serializeField v]
  simp only [map_eq_ok_iff]
  constructor
  · rintro ⟨_, ⟨f, hf, rfl⟩, hread⟩
    cases f with
    | none => exact ⟨none, hf, (hs.reads_of_omitted hf).1⟩
    | some w => exact ⟨some w, hf, hread⟩
  · rintro ⟨f, hf, hread⟩
    refine ⟨_, ⟨f, hf, rfl⟩, ?_⟩
    cases f with
    | none => exact (hs.reads_of_omitted hf).2
    | some w => exact hread

/-- Neither a set nor a default nor a union. -/
def IsStructural : Descriptor → Prop
  | set _ | orDefault _ _ | union _ => False
  | _ => True

/-- The schema of a descriptor that is structural throughout accepts what it can write and read
again. -/
theorem Denotes.checksByReparsing (hs : Denotes entries d s)
    (h : Throughout entries IsStructural d) : s.ChecksByReparsing := by
  induction hs with
  | string | pattern => exact stringSchema_checksByReparsing
  | number => exact numberSchema_checksByReparsing
  | integer => exact integerSchema_checksByReparsing
  | boolean => exact booleanSchema_checksByReparsing
  | datetime => exact datetimeSchema_checksByReparsing
  | set => exact h.self.elim
  | orDefault => exact h.self.elim
  | union => exact h.self.elim
  | @array d t hitems ih =>
    exact (ih (h.child (List.mem_singleton_self d))).array fun x ↦ hitems.isExplained _
  | @indexed d t hvalues ih =>
    exact (ih (h.child (List.mem_singleton_self d))).indexed fun x ↦ hvalues.isExplained _
  | @tuple ds t ts length items ih =>
    refine .sequence (forall_mem_of_forall_mem_zip length fun item hitem ↦ ?_)
      fun s hs x ↦ isExplained_of_zip length items s hs _
    exact ih item hitem (h.child (List.of_mem_zip hitem).1)
  | @object fields denyUnknown ts t length items hobject ih =>
    obtain ⟨hnames, rfl⟩ := objectSchema_eq_ok_iff.1 hobject
    refine .record hnames.2 ?_ (isExplained_of_fields length items)
    apply forall_mem_zip_fst (p := Schema.ChecksFieldByReparsing) length
    intro item hitem
    exact (items item hitem).checksFieldByReparsing
      (ih item hitem (h.child (List.of_mem_zip hitem).1))
  | @optional d t hinner ih =>
    exact (ih (h.child (List.mem_singleton_self d))).optional hinner.keepsNull hinner.fits
  | @nullable d t hinner ih =>
    exact (ih (h.child (List.mem_singleton_self d))).nullable hinner.keepsNull
  | @reference name target t hlookup htarget ih => exact ih (h.step (.inr ⟨name, rfl, hlookup⟩))

end Descriptor

/-! ## Catalogs -/

namespace Catalog

/-- Without defaults, sets and unions a schema of a catalog accepts a value, whatever it is, exactly
when it can write it and read what it has written, alone and in a field.  So checking a shape part
by part has the same answer as writing it and reading it again as a whole. -/
theorem validate_iff_reparses {ρ : Type} [Regex.Engine ρ] {source : CatalogSource}
    {catalog : Catalog} {name : String} {s : JsonSchema} (h : source.compile = .ok catalog)
    (hs : catalog.get name = .ok s)
    (hstructural : Descriptor.Throughout source.schemas.entries Descriptor.IsStructural
      (.reference name)) (v : Json) :
    (s.validate v = true ↔ ∃ w, s.serialize v = .ok w ∧ ∃ a, s.parse w = .ok a) ∧
      (s.validate v = true ↔ ∃ f, s.serializeField v = .ok f ∧ ∃ a, s.parseInput f = .ok a) ∧
      s.validate v = s.shape.reparses v := by
  have hdenotes := CatalogSource.denotes_of_get h hs
  have hchecks := hdenotes.checksByReparsing hstructural
  refine ⟨hchecks v, hdenotes.checksFieldByReparsing hchecks v, ?_⟩
  exact Bool.eq_iff_iff.2 ((hchecks v).trans Schema.reparses_iff.symm)

/-! ## Labels that are not what they are written as -/

open Descriptor

/-- All that is inside a label. -/
def labelNodes : List Descriptor :=
  [.reference "label", .object [("text", .optional (.reference "text")),
      ("time", .nullable .datetime)] true,
    .optional (.reference "text"), .nullable .datetime, .datetime, .reference "text",
    .string false none]

theorem label_throughout :
    Throughout noteSource.schemas.entries IsStructural (.reference "label") := by
  have hroot : .reference "label" ∈ labelNodes := List.mem_cons_self
  refine .of_closed hroot ?_ ?_
  · simp [labelNodes, LeadsTo, children, noteSource, List.lookup_cons]
  · simp [labelNodes, IsStructural]

/-- A label with a member that it does not declare is valid, as that is not written. -/
theorem label_with_size_reparses : ∃ catalog, noteSource.compile = .ok catalog ∧
    catalog.get "label" = .ok labelSchema ∧
      Throughout noteSource.schemas.entries IsStructural (.reference "label") ∧
        labelSchema.validate (.object [("size", .bool true), ("time", .null)]) = true ∧
        (∃ w, labelSchema.serialize (.object [("size", .bool true), ("time", .null)]) = .ok w ∧
          ∃ a, labelSchema.parse w = .ok a) := by
  obtain ⟨catalog, h, hlabel, -⟩ := exists_noteCatalog
  have hvalid : labelSchema.validate (.object [("size", .bool true), ("time", .null)]) = true := rfl
  exact ⟨catalog, h, hlabel, label_throughout, hvalid,
    (validate_iff_reparses h hlabel label_throughout _).1.1 hvalid⟩

end Catalog

end TwoWaySchema
