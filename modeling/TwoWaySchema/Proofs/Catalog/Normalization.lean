import TwoWaySchema.Proofs.Catalog.RoundTrip

/-!
# Normal forms

What a schema of a catalog has read is in normal form: read once more, without being written first,
it stays as it is.  Absent fields have become nulls, undeclared members are gone, converted texts
are numbers and repeated elements have been dropped, and none of this happens twice.  Unions and
timestamps do not take part.  Neither does an optional schema around one that reads null as a
boolean, for what it takes an absent value for is read in another way.
-/

namespace TwoWaySchema

/-! ## Reading values again -/

/-- What the schema reads it reads again as it is. -/
def Schema.Settles (s : JsonSchema) : Prop :=
  ∀ input v, s.parseInput input = .ok v → s.parse v = .ok v

namespace Schema.Settles

open Descriptor

variable {s : JsonSchema}

/-- A schema that reads no absent value need only read values again. -/
theorem of_present (habsent : ∀ v, s.parseInput none ≠ .ok v)
    (hroot : ∀ raw v, s.parse raw = .ok v → s.parse v = .ok v) : s.Settles := by
  intro input v hv
  cases input with
  | none => exact absurd hv (habsent v)
  | some raw => exact hroot raw v hv

theorem of_isNormalizing (h : IsNormalizing s) : s.Settles :=
  of_present h.absent fun raw v hv ↦ (h.normal raw v hv).2

/-! ### Containers -/

theorem forall_of_forall₂ {items values : List Json} (h : s.Settles)
    (hread : List.Forall₂ (fun x a ↦ s.parse x = .ok a) items values) :
    ∀ a ∈ values, s.parse a = .ok a := by
  intro a ha
  obtain ⟨x, -, hx⟩ := exists_of_forall₂_right hread a ha
  exact h (some x) a hx

theorem array (h : s.Settles) (hexplained : ∀ x, (s.parse x).IsExplained) :
    (arraySchema s).Settles := by
  intro input v hv
  obtain ⟨items, values, -, hread, rfl⟩ := (arraySchema_parseInput_eq_ok_iff hexplained).1 hv
  apply (arraySchema_parseInput_eq_ok_iff hexplained).2
  exact ⟨values, values, rfl, List.forall₂_same.2 (h.forall_of_forall₂ hread), rfl⟩

theorem set (h : s.Settles) (hexplained : ∀ x, (s.parse x).IsExplained) :
    (setSchema s).Settles := by
  intro input v hv
  obtain ⟨items, values, -, hread, rfl⟩ := (setSchema_parseInput_eq_ok_iff hexplained).1 hv
  have hkept : ∀ a ∈ Parts.dropRepeated values, s.parse a = .ok a := fun a ha ↦
    h.forall_of_forall₂ hread a (Parts.mem_of_mem_dropRepeated a ha)
  apply (setSchema_parseInput_eq_ok_iff hexplained).2
  refine ⟨Parts.dropRepeated values, Parts.dropRepeated values, rfl, List.forall₂_same.2 hkept, ?_⟩
  rw [Parts.dropRepeated_dropRepeated]

theorem sequence {ss : List JsonSchema} (h : ∀ s ∈ ss, s.Settles)
    (hexplained : ∀ s ∈ ss, ∀ x, (s.parse x).IsExplained) : (Schema.sequence ss).Settles := by
  intro input v hv
  obtain ⟨items, values, -, hitems, hread, rfl⟩ :=
    (sequence_parseInput_eq_ok_iff hexplained).1 hv
  have hlength : values.length = ss.length := by
    rw [← hread.length_eq, List.length_zip, hitems, Nat.min_self]
  have hpairs := forall₂_zip_swap (r := fun s x a ↦ s.parse x = .ok a) hitems hread
  have hvalues : ∀ part ∈ ss.zip values, part.1.parse part.2 = .ok part.2 := by
    intro part hpart
    obtain ⟨x, -, hx⟩ := exists_of_forall₂_left hpairs part hpart
    exact h part.1 (List.of_mem_zip hpart).1 (some x) part.2 hx
  have hreread : List.Forall₂ (fun part a ↦ part.1.parse part.2 = .ok a) (ss.zip values)
      ((ss.zip values).map Prod.snd) :=
    List.forall₂_map_right_iff.2 (List.forall₂_same.2 hvalues)
  rw [List.map_snd_zip (Nat.le_of_eq hlength)] at hreread
  exact (sequence_parseInput_eq_ok_iff hexplained).2 ⟨values, values, rfl, hlength, hreread, rfl⟩

theorem indexed (h : s.Settles) (hexplained : ∀ x, (s.parse x).IsExplained) :
    (indexedSchema s).Settles := by
  intro input v hv
  obtain ⟨members, entries, -, hread, rfl⟩ := (indexedSchema_parseInput_eq_ok_iff hexplained).1 hv
  have hentries : ∀ entry ∈ (SortedMap.ofList entries).entries,
      s.parse entry.2 = .ok entry.2 := by
    intro entry hentry
    obtain ⟨member, -, -, hmember⟩ :=
      exists_of_forall₂_right hread entry (SortedMap.mem_of_mem_ofList hentry)
    exact h (some member.2) entry.2 hmember
  apply (indexedSchema_parseInput_eq_ok_iff hexplained).2
  refine ⟨(SortedMap.ofList entries).entries, (SortedMap.ofList entries).entries, rfl, ?_,
    ofMembers_ofList.symm⟩
  exact List.forall₂_same.2 fun entry hentry ↦ ⟨rfl, hentries entry hentry⟩

/-- Each field finds the value that was read for it under its name. -/
theorem record {fields : List (String × JsonSchema)} {denyUnknown : Bool}
    (hnames : (fields.map Prod.fst).Nodup) (h : ∀ field ∈ fields, field.2.Settles)
    (hexplained : ∀ field ∈ fields, ∀ input, (field.2.parseInput input).IsExplained) :
    (recordSchema fields denyUnknown).Settles := by
  intro input v hv
  obtain ⟨members, values, -, -, hread, rfl⟩ :=
    (recordSchema_parseInput_eq_ok_iff hnames hexplained).1 hv
  have hlength : fields.length = values.length := hread.length_eq
  apply (recordSchema_parseInput_eq_ok_iff hnames hexplained).2
  refine ⟨_, values, rfl, fun _ member hmember ↦ ?_, ?_, rfl⟩
  · exact (List.of_mem_zip (SortedMap.mem_of_mem_ofList hmember)).1
  · refine List.forall₂_iff_zip.2 ⟨hlength, fun {field a} hrow ↦ ?_⟩
    rw [lookup_ofList_zip hnames hlength _ hrow]
    exact h field (List.of_mem_zip hrow).1 _ a (List.forall₂_zip hread hrow)

/-! ### Wrappers -/

/-- An optional schema takes an absent value for null, which must stay null when it is read. -/
theorem optional (h : s.Settles) (hfits : ∀ input, (s.parseInput input).Fits input)
    (hnull : (∀ a, s.parseInput none ≠ .ok a) → ∀ a, s.parse .null = .ok a → a = .null) :
    (optionalSchema s).Settles := by
  intro input v hv
  rcases (optionalSchema_parseInput_eq_ok_iff (hfits _)).1 hv with hinner | ⟨hvacant, rfl, hnone⟩
  · exact optionalSchema_parseInput_of_ok (h input v hinner)
  · cases hinner : s.parse .null with
    | error failure =>
      refine (optionalSchema_parseInput_eq_ok_iff (hfits _)).2 (.inr ⟨.inr rfl, rfl, ?_⟩)
      intro a ha
      rw [show s.parseInput (some .null) = .error failure from hinner] at ha
      cases ha
    | ok a =>
      -- Only an absent value was rejected, so `hnull` says as what null is read.
      have hinput : input = none := hvacant.resolve_right fun hinput ↦ by
        rw [hinput] at hnone
        exact hnone a hinner
      rw [hinput] at hnone
      obtain rfl := hnull hnone a hinner
      exact optionalSchema_parseInput_of_ok hinner

theorem nullable (h : s.Settles) : (nullableSchema s).Settles := by
  intro input v hv
  by_cases hv' : v = .null
  · rw [hv']
    rfl
  · have hinput : input ≠ some .null := by
      rintro rfl
      cases hv
      exact hv' rfl
    rw [nullableSchema_parseInput_of_ne hinput] at hv
    have hne : some v ≠ some Json.null := fun heq ↦ hv' (Option.some.inj heq)
    exact (nullableSchema_parseInput_of_ne hne).trans (h input v hv)

/-- The default itself was read when the schema was compiled. -/
theorem orDefault {raw value : Json} (h : s.Settles) (hvalue : s.parse raw = .ok value) :
    (s.orDefault value).Settles := by
  intro input v hv
  apply orDefault_parseInput_eq_ok_iff.2
  rcases orDefault_parseInput_eq_ok_iff.1 hv with hinner | ⟨rfl, -⟩
  · exact .inl (h input v hinner)
  · exact .inl (h (some raw) v hvalue)

end Schema.Settles

/-! ## Denotations -/

namespace Descriptor

/-- References followed there is no union and no timestamp, and no optional descriptor wraps one of
booleans that are converted. -/
structure IsNormalForming (entries : List (String × Descriptor)) (root : Descriptor) : Prop where
  noUnion : ∀ alternatives, ¬ Reaches entries root (.union alternatives)
  noDatetime : ¬ Reaches entries root .datetime
  noHiddenBoolean : ∀ inner, Reaches entries root (.optional inner) →
    ¬ Wraps entries inner (.boolean true)

variable {ρ : Type} [Regex.Engine ρ] {entries : List (String × Descriptor)} {d e : Descriptor}
  {s : JsonSchema}

theorem IsNormalForming.step (h : IsNormalForming entries d) (hstep : LeadsTo entries d e) :
    IsNormalForming entries e where
  noUnion alternatives hreach := h.noUnion alternatives (.head hstep hreach)
  noDatetime hreach := h.noDatetime (.head hstep hreach)
  noHiddenBoolean inner hreach := h.noHiddenBoolean inner (.head hstep hreach)

theorem IsNormalForming.child (h : IsNormalForming entries d) (hchild : e ∈ d.children) :
    IsNormalForming entries e :=
  h.step (.inl hchild)

/-- Without unions, and unless it wraps converted booleans, a schema that rejects an absent value
can read null only as null. -/
theorem Denotes.parse_null (hs : Denotes entries d s)
    (hunion : ∀ alternatives, ¬ Reaches entries d (.union alternatives))
    (hboolean : ¬ Wraps entries d (.boolean true)) (hnone : ∀ a, s.parseInput none ≠ .ok a)
    {a : Json} (ha : s.parse .null = .ok a) : a = .null := by
  induction hs with
  | string coerces => cases coerces <;> cases ha
  | pattern coerces => cases coerces <;> cases ha
  | number coerces => cases coerces <;> cases ha
  | integer coerces => cases coerces <;> cases ha
  | boolean coerces =>
    cases coerces with
    | false => cases ha
    | true => exact absurd .refl hboolean
  | datetime => cases ha
  | array | set | tuple | indexed => cases ha
  | object _ _ hobject =>
    obtain ⟨-, rfl⟩ := objectSchema_eq_ok_iff.1 hobject
    cases ha
  | @optional inner t hinner =>
    cases ht : t.parseInput none with
    | ok b => exact absurd (optionalSchema_parseInput_of_ok ht) (hnone b)
    | error failure =>
      refine absurd ((optionalSchema_parseInput_eq_ok_iff (hinner.fits none)).2 ?_) (hnone .null)
      refine .inr ⟨.inl rfl, rfl, fun b hb ↦ ?_⟩
      rw [ht] at hb
      cases hb
  | nullable =>
    cases ha
    rfl
  | @orDefault inner t raw value =>
    cases ht : t.parseInput none with
    | ok b => exact absurd (orDefault_parseInput_eq_ok_iff.2 (.inl ht)) (hnone b)
    | error failure =>
      refine absurd (orDefault_parseInput_eq_ok_iff.2 (.inr ⟨rfl, fun b hb ↦ ?_⟩)) (hnone value)
      rw [ht] at hb
      cases hb
  | @union ds => exact absurd .refl (hunion ds)
  | @reference name target t hlookup htarget ih =>
    have hstep : LeadsTo entries (.reference name) target := .inr ⟨name, rfl, hlookup⟩
    exact ih (fun ds hds ↦ hunion ds (.head hstep hds))
      (fun hwraps ↦ hboolean (.head ⟨trivial, hstep⟩ hwraps)) hnone ha

theorem Denotes.settles (hs : Denotes entries d s) (h : IsNormalForming entries d) :
    s.Settles := by
  induction hs with
  | string | pattern => exact .of_isNormalizing stringSchema_isNormalizing
  | number => exact .of_isNormalizing numberSchema_isNormalizing
  | integer => exact .of_isNormalizing integerSchema_isNormalizing
  | boolean => exact .of_isNormalizing booleanSchema_isNormalizing
  | datetime => exact absurd .refl h.noDatetime
  | @array d t hitems ih =>
    exact (ih (h.child (List.mem_singleton_self d))).array fun x ↦ hitems.isExplained _
  | @set d t hitems ih =>
    exact (ih (h.child (List.mem_singleton_self d))).set fun x ↦ hitems.isExplained _
  | @indexed d t hvalues ih =>
    exact (ih (h.child (List.mem_singleton_self d))).indexed fun x ↦ hvalues.isExplained _
  | @tuple ds t ts length items ih =>
    refine .sequence (forall_mem_of_forall_mem_zip length fun item hitem ↦ ?_)
      fun s hs x ↦ isExplained_of_zip length items s hs _
    exact ih item hitem (h.child (List.of_mem_zip hitem).1)
  | @object fields denyUnknown ts t length items hobject ih =>
    obtain ⟨hnames, rfl⟩ := objectSchema_eq_ok_iff.1 hobject
    refine .record hnames.2 ?_ (isExplained_of_fields length items)
    apply forall_mem_zip_fst (p := Schema.Settles) length
    intro item hitem
    exact ih item hitem (h.child (List.of_mem_zip hitem).1)
  | @optional inner t hinner ih =>
    have hstep : LeadsTo entries (.optional inner) inner := .inl (List.mem_singleton_self _)
    refine (ih (h.step hstep)).optional hinner.fits fun hnone a ha ↦ ?_
    exact hinner.parse_null (h.step hstep).noUnion (h.noHiddenBoolean inner .refl) hnone ha
  | @nullable inner t _ ih => exact (ih (h.child (List.mem_singleton_self inner))).nullable
  | @orDefault inner t raw value _ hvalue ih =>
    exact (ih (h.child (List.mem_singleton_self inner))).orDefault hvalue
  | @union ds => exact absurd .refl (h.noUnion ds)
  | @reference name target t hlookup _ ih => exact ih (h.step (.inr ⟨name, rfl, hlookup⟩))

end Descriptor

/-! ## Catalogs -/

namespace Catalog

open Descriptor

/-- What a schema of a catalog has read, be it from an absent value, it reads again as it is. -/
theorem parse_of_parseInput {ρ : Type} [Regex.Engine ρ] {source : CatalogSource}
    {catalog : Catalog} {name : String} {s : JsonSchema} (h : source.compile = .ok catalog)
    (hs : catalog.get name = .ok s)
    (hnormal : IsNormalForming source.schemas.entries (.reference name)) {input : Option Json}
    {v : Json} (hv : s.parseInput input = .ok v) : s.parse v = .ok v :=
  (CatalogSource.denotes_of_get h hs).settles hnormal input v hv

theorem entry_isNormalForming :
    IsNormalForming entrySource.schemas.entries (.reference "entry") := by
  refine ⟨entry_isReversible.noUnion, entry_isReversible.noDatetime, fun inner h hwraps ↦ ?_⟩
  rw [eq_text_of_entry_reaches h] at hwraps
  simpa using mem_of_text_reaches hwraps.reaches

/-- An entry without a label and with a mark that is none. -/
theorem entry_parse_of_parseInput :
    entrySource.compile = .ok entryCatalog ∧ entryCatalog.get "entry" = .ok entrySchema ∧
      IsNormalForming entrySource.schemas.entries (.reference "entry") ∧
      entrySchema.parseInput (some (.object [("mark", .string "on")])) =
        .ok (.object [("label", .null), ("mark", .bool false)]) ∧
      entrySchema.parse (.object [("label", .null), ("mark", .bool false)]) =
        .ok (.object [("label", .null), ("mark", .bool false)]) := by
  have hread : entrySchema.parseInput (some (.object [("mark", .string "on")])) =
      .ok (.object [("label", .null), ("mark", .bool false)]) := rfl
  exact ⟨compile_entrySource, rfl, entry_isNormalForming, hread,
    parse_of_parseInput compile_entrySource rfl entry_isNormalForming hread⟩

end Catalog

end TwoWaySchema
