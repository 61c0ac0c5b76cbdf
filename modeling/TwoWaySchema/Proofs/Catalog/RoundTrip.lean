import TwoWaySchema.Proofs.Catalog.Acceptance
import TwoWaySchema.Proofs.Catalog.Null
import TwoWaySchema.Proofs.Catalog.Reachability

/-!
# Round trips through catalog schemas

What a schema has read it writes to data from which it reads the same value again.  In a field a
value can be left out, so what is written and read there may be absent.  The two statements hold
together, by induction on denotations: a value that was read from nothing is either null, which an
optional schema leaves out, or one that is written.  Unions and timestamps do not take part, and no
default may hide in an optional schema, which would leave out a null that the default replaces.
-/

namespace TwoWaySchema

/-! ## Round trips -/

namespace Schema

/-- The value is written to data from which it is read again. -/
def Restores (s : JsonSchema) (v : Json) : Prop :=
  ∃ w, s.serialize v = .ok w ∧ s.parse w = .ok v

/-- In a field the value is written to data, or left out, so that it is read again. -/
def RestoresField (s : JsonSchema) (v : Json) : Prop :=
  ∃ written, s.serializeField v = .ok written ∧ s.parseInput written = .ok v

/-- Everything that the schema reads is restored, and what it reads from nothing is null or
restored. -/
structure RoundTrips (s : JsonSchema) : Prop where
  root : ∀ raw v, s.parse raw = .ok v → s.Restores v
  absent : ∀ v, s.parseInput none = .ok v → v = .null ∨ s.Restores v
  field : ∀ input v, s.parseInput input = .ok v → s.RestoresField v

namespace RoundTrips

variable {s : JsonSchema}

/-- A schema that reads no absent value and leaves out none need only restore values. -/
theorem of_plain (habsent : ∀ v, s.parseInput none ≠ .ok v)
    (hplain : ∀ v, s.serializeField v = (s.serialize v).map some)
    (hroot : ∀ raw v, s.parse raw = .ok v → s.Restores v) : s.RoundTrips where
  root := hroot
  absent v h := absurd h (habsent v)
  field input v h := by
    cases input with
    | none => exact absurd h (habsent v)
    | some raw =>
      obtain ⟨w, hw, hv⟩ := hroot raw v h
      refine ⟨some w, ?_, hv⟩
      rw [hplain, hw]
      rfl

theorem of_isNormalizing (h : Descriptor.IsNormalizing s) : s.RoundTrips :=
  of_plain h.absent h.plain fun raw v hv ↦ ⟨v, h.normal raw v hv⟩

/-! ## Containers -/

/-- Values that are restored one by one are restored side by side. -/
theorem exists_written {items values : List Json} (h : s.RoundTrips)
    (hread : List.Forall₂ (fun x a ↦ s.parse x = .ok a) items values) :
    ∀ a ∈ values, s.Restores a := by
  intro a ha
  obtain ⟨x, -, hx⟩ := exists_of_forall₂_right hread a ha
  exact h.root x a hx

theorem array (h : s.RoundTrips) (hexplained : ∀ x, (s.parse x).IsExplained) :
    (Descriptor.arraySchema s).RoundTrips := by
  refine of_plain nofun (fun v ↦ by cases v <;> rfl) ?_
  intro raw v hv
  obtain ⟨items, values, -, hread, rfl⟩ :=
    (Descriptor.arraySchema_parseInput_eq_ok_iff hexplained).1 hv
  obtain ⟨xs, hxs⟩ := exists_forall₂ (exists_written h hread)
  refine ⟨.array xs, Descriptor.arraySchema_serialize_eq_ok_iff.2 ?_,
    (Descriptor.arraySchema_parseInput_eq_ok_iff hexplained).2 ?_⟩
  · exact ⟨values, xs, rfl, hxs.imp fun a x hx ↦ hx.1, rfl⟩
  · exact ⟨xs, values, rfl, List.Forall₂.flip (hxs.imp fun a x hx ↦ hx.2), rfl⟩

theorem set (h : s.RoundTrips) (hexplained : ∀ x, (s.parse x).IsExplained) :
    (Descriptor.setSchema s).RoundTrips := by
  refine of_plain nofun (fun v ↦ by cases v <;> rfl) ?_
  intro raw v hv
  obtain ⟨items, values, -, hread, rfl⟩ :=
    (Descriptor.setSchema_parseInput_eq_ok_iff hexplained).1 hv
  have hkept : ∀ a ∈ Parts.dropRepeated values, s.Restores a := fun a ha ↦
    exists_written h hread a (Parts.mem_of_mem_dropRepeated a ha)
  obtain ⟨xs, hxs⟩ := exists_forall₂ hkept
  refine ⟨.array xs, Descriptor.setSchema_serialize_eq_ok_iff.2 ?_,
    (Descriptor.setSchema_parseInput_eq_ok_iff hexplained).2 ?_⟩
  · exact ⟨Parts.dropRepeated values, xs, rfl, hxs.imp fun a x hx ↦ hx.1, rfl⟩
  · refine ⟨xs, Parts.dropRepeated values, rfl, List.Forall₂.flip (hxs.imp fun a x hx ↦ hx.2), ?_⟩
    rw [Parts.dropRepeated_dropRepeated]

theorem sequence {ss : List JsonSchema} (h : ∀ s ∈ ss, s.RoundTrips)
    (hexplained : ∀ s ∈ ss, ∀ x, (s.parse x).IsExplained) : (Schema.sequence ss).RoundTrips := by
  refine of_plain nofun (fun v ↦ rfl) ?_
  intro raw v hv
  obtain ⟨items, values, -, hitems, hread, rfl⟩ :=
    (Descriptor.sequence_parseInput_eq_ok_iff hexplained).1 hv
  have hvalues : values.length = ss.length := by
    rw [← hread.length_eq, List.length_zip, hitems, Nat.min_self]
  have hrestores : ∀ part ∈ ss.zip values, part.1.Restores part.2 := by
    intro part hpart
    have hpairs := forall₂_zip_swap (r := fun s x a ↦ s.parse x = .ok a) hitems hread
    obtain ⟨x, -, hx⟩ := exists_of_forall₂_left hpairs part hpart
    exact (h _ (List.of_mem_zip hpart).1).root x _ hx
  obtain ⟨xs, hxs⟩ := exists_forall₂ hrestores
  have hlength : xs.length = ss.length := by
    rw [← hxs.length_eq, List.length_zip, hvalues, Nat.min_self]
  refine ⟨.array xs, Descriptor.sequence_serialize_eq_ok_iff.2 ?_,
    (Descriptor.sequence_parseInput_eq_ok_iff hexplained).2 ?_⟩
  · exact ⟨values, xs, rfl, hvalues, hxs.imp fun part x hx ↦ hx.1, rfl⟩
  · have hreread := forall₂_zip_swap (r := fun s a x ↦ s.parse x = .ok a) hvalues
      (hxs.imp fun part x hx ↦ hx.2)
    exact ⟨xs, values, rfl, hlength, hreread, rfl⟩

theorem indexed (h : s.RoundTrips) (hexplained : ∀ x, (s.parse x).IsExplained) :
    (Descriptor.indexedSchema s).RoundTrips := by
  refine of_plain nofun (fun v ↦ by cases v <;> rfl) ?_
  intro raw v hv
  obtain ⟨members, entries, -, hread, rfl⟩ :=
    (Descriptor.indexedSchema_parseInput_eq_ok_iff hexplained).1 hv
  have hrestores : ∀ entry ∈ (SortedMap.ofList entries).entries, ∃ member : String × Json,
      member.1 = entry.1 ∧ s.serialize entry.2 = .ok member.2 ∧
        s.parse member.2 = .ok entry.2 := by
    intro entry hentry
    obtain ⟨member, -, -, hmember⟩ :=
      exists_of_forall₂_right hread entry (SortedMap.mem_of_mem_ofList hentry)
    obtain ⟨w, hw⟩ := h.root _ _ hmember
    exact ⟨(entry.1, w), rfl, hw⟩
  obtain ⟨written, hwritten⟩ := exists_forall₂ hrestores
  have hsorted : Json.ofMembers written = .object written :=
    Descriptor.ofMembers_written (hwritten.imp fun entry member hmember ↦ hmember.1)
  refine ⟨.ofMembers written, Descriptor.indexedSchema_serialize_eq_ok_iff.2 ?_,
    (Descriptor.indexedSchema_parseInput_eq_ok_iff hexplained).2 ?_⟩
  · refine ⟨(SortedMap.ofList entries).entries, written, rfl, ?_, rfl⟩
    rw [SortedMap.ofList_entries_ofList]
    exact hwritten.imp fun entry member hmember ↦ ⟨hmember.1, hmember.2.1⟩
  · refine ⟨written, (SortedMap.ofList entries).entries, congrArg some hsorted, ?_, ?_⟩
    · refine List.Forall₂.flip (hwritten.imp fun entry member hmember ↦ ?_)
      exact ⟨hmember.1.symm, hmember.2.2⟩
    · exact Descriptor.ofMembers_ofList.symm

/-- Fields that were read under their names are written and read under them again. -/
theorem record {fields : List (String × JsonSchema)} {denyUnknown : Bool}
    (hnames : (fields.map Prod.fst).Nodup) (h : ∀ field ∈ fields, field.2.RoundTrips)
    (hexplained : ∀ field ∈ fields, ∀ input, (field.2.parseInput input).IsExplained) :
    (Descriptor.recordSchema fields denyUnknown).RoundTrips := by
  refine of_plain nofun (fun v ↦ by cases v <;> rfl) ?_
  intro raw v hv
  obtain ⟨members, values, -, -, hread, rfl⟩ :=
    (Descriptor.recordSchema_parseInput_eq_ok_iff hnames hexplained).1 hv
  have hlength : fields.length = values.length := hread.length_eq
  have hrestores : ∀ row ∈ fields.zip values, ∃ f,
      Descriptor.Writes row.1.2 ((Descriptor.recordOfMembers
        (SortedMap.ofList ((fields.map Prod.fst).zip values)).entries).slot? row.1.1) f ∧
        row.1.2.parseInput f = .ok row.2 := by
    intro row hrow
    rw [Descriptor.slot?_recordOfMembers_zip hnames hlength row hrow]
    exact (h _ (List.of_mem_zip hrow).1).field _ _ (List.forall₂_zip hread hrow)
  obtain ⟨written, hwritten⟩ := exists_forall₂ hrestores
  have hwrites : List.Forall₂ (fun field f ↦
      Descriptor.Writes field.2 ((Descriptor.recordOfMembers
        (SortedMap.ofList ((fields.map Prod.fst).zip values)).entries).slot? field.1) f)
      fields written :=
    (forall₂_iff_forall₂_zip hlength fun _ _ _ ↦ Iff.rfl).2 (hwritten.imp fun row f hf ↦ hf.1)
  have hreread := forall₂_zip_swap (r := fun field a f ↦ field.2.parseInput f = .ok a)
    hlength.symm (hwritten.imp fun row f hf ↦ hf.2)
  refine ⟨_, Descriptor.recordSchema_serialize_eq_ok_iff.2 ⟨_, written, rfl, hwrites, rfl⟩, ?_⟩
  apply (Descriptor.recordSchema_parse_written_eq_ok_iff hnames hwrites.length_eq hexplained).2
  exact ⟨values, hreread, rfl⟩

end RoundTrips

/-! ## Wrappers -/

section Wrappers

variable {s : JsonSchema} {v : Json}

theorem Restores.optional (h : s.Restores v) (hnull : s.KeepsNull) :
    (Descriptor.optionalSchema s).Restores v := by
  obtain ⟨w, hw, hv⟩ := h
  refine ⟨w, ?_, Descriptor.optionalSchema_parseInput_of_ok hv⟩
  by_cases hvnull : v = .null
  · rw [(hnull v w hw).2 hvnull, hvnull]
    rfl
  · rw [Descriptor.optionalSchema_serialize_of_ne hvnull]
    exact hw

theorem Restores.nullable (h : s.Restores v) (hnull : s.KeepsNull) :
    (Descriptor.nullableSchema s).Restores v := by
  obtain ⟨w, hw, hv⟩ := h
  by_cases hvnull : v = .null
  · rw [hvnull]
    exact ⟨.null, rfl, rfl⟩
  · have hwnull : some w ≠ some .null := fun heq ↦
      hvnull ((hnull v w hw).1 (Option.some.inj heq))
    refine ⟨w, ?_, ?_⟩
    · rw [Descriptor.nullableSchema_serialize_of_ne hvnull]
      exact hw
    · exact (Descriptor.nullableSchema_parseInput_of_ne hwnull).trans hv

theorem Restores.orDefault {value : Json} (h : s.Restores v) : (s.orDefault value).Restores v := by
  obtain ⟨w, hw, hv⟩ := h
  exact ⟨w, hw, Descriptor.orDefault_parseInput_eq_ok_iff.2 (.inl hv)⟩

namespace RoundTrips

/-- An optional schema leaves out null, so the schema inside must not read another value there. -/
theorem optional (h : s.RoundTrips) (hfits : ∀ input, (s.parseInput input).Fits input)
    (hnull : s.KeepsNull) (habsent : ∀ v, s.parseInput none = .ok v → v = .null) :
    (Descriptor.optionalSchema s).RoundTrips where
  root raw v hv := by
    rcases (Descriptor.optionalSchema_parseInput_eq_ok_iff (hfits _)).1 hv with
      hinner | ⟨hvacant, rfl, -⟩
    · exact (h.root raw v hinner).optional hnull
    · obtain rfl : raw = .null := by simpa [IsVacant] using hvacant
      exact ⟨.null, rfl, hv⟩
  absent v hv := by
    rcases (Descriptor.optionalSchema_parseInput_eq_ok_iff (hfits _)).1 hv with
      hinner | ⟨-, rfl, -⟩
    · exact .inl (habsent v hinner)
    · exact .inl rfl
  field input v hv := by
    by_cases hvnull : v = .null
    · subst hvnull
      refine ⟨none, rfl, (Descriptor.optionalSchema_parseInput_eq_ok_iff (hfits _)).2 ?_⟩
      cases hinner : s.parseInput none with
      | ok a => exact .inl (congrArg Except.ok (habsent a hinner))
      | error failure => exact .inr ⟨.inl rfl, rfl, fun a ha ↦ by cases ha⟩
    · rcases (Descriptor.optionalSchema_parseInput_eq_ok_iff (hfits _)).1 hv with
        hinner | ⟨-, heq, -⟩
      · obtain ⟨written, hwritten, hread⟩ := h.field input v hinner
        refine ⟨written, ?_, Descriptor.optionalSchema_parseInput_of_ok hread⟩
        rw [Descriptor.optionalSchema_serializeField_of_ne hvnull]
        exact hwritten
      · exact absurd heq hvnull

theorem nullable (h : s.RoundTrips) (hnull : s.KeepsNull) :
    (Descriptor.nullableSchema s).RoundTrips := by
  have hnone : (Descriptor.nullableSchema s).parseInput none = s.parseInput none :=
    Descriptor.nullableSchema_parseInput_of_ne nofun
  have hroot : ∀ raw v, (Descriptor.nullableSchema s).parse raw = .ok v →
      (Descriptor.nullableSchema s).Restores v := by
    intro raw v hv
    by_cases hraw : some raw = some .null
    · obtain rfl := Option.some.inj hraw
      cases hv
      exact ⟨.null, rfl, rfl⟩
    · have hinner : s.parse raw = .ok v :=
        (Descriptor.nullableSchema_parseInput_of_ne hraw).symm.trans hv
      exact (h.root raw v hinner).nullable hnull
  have habsent : ∀ v, (Descriptor.nullableSchema s).parseInput none = .ok v →
      (Descriptor.nullableSchema s).Restores v := by
    intro v hv
    rw [hnone] at hv
    rcases h.absent v hv with rfl | hrestores
    · exact ⟨.null, rfl, rfl⟩
    · exact hrestores.nullable hnull
  refine ⟨hroot, fun v hv ↦ .inr (habsent v hv), fun input v hv ↦ ?_⟩
  have hrestores : (Descriptor.nullableSchema s).Restores v := by
    cases input with
    | none => exact habsent v hv
    | some raw => exact hroot raw v hv
  obtain ⟨w, hw, hread⟩ := hrestores
  refine ⟨some w, ?_, hread⟩
  rw [Descriptor.nullableSchema_serializeField, hw]
  rfl

/-- What a default stands in for is written like what the default itself was read from. -/
theorem orDefault {raw value : Json} (h : s.RoundTrips) (hvalue : s.parse raw = .ok value) :
    (s.orDefault value).RoundTrips where
  root data v hv := by
    rcases Descriptor.orDefault_parseInput_eq_ok_iff.1 hv with hinner | ⟨rfl, -⟩
    · exact (h.root data v hinner).orDefault
    · exact (h.root raw v hvalue).orDefault
  absent v hv := by
    rcases Descriptor.orDefault_parseInput_eq_ok_iff.1 hv with hinner | ⟨rfl, -⟩
    · exact (h.absent v hinner).imp_right Restores.orDefault
    · exact .inr (h.root raw v hvalue).orDefault
  field input v hv := by
    have hfield : s.RestoresField v := by
      rcases Descriptor.orDefault_parseInput_eq_ok_iff.1 hv with hinner | ⟨rfl, -⟩
      · exact h.field input v hinner
      · exact h.field (some raw) v hvalue
    obtain ⟨written, hwritten, hread⟩ := hfield
    exact ⟨written, hwritten, Descriptor.orDefault_parseInput_eq_ok_iff.2 (.inl hread)⟩

end RoundTrips

end Wrappers

end Schema

/-! ## Reversible descriptors -/

namespace Descriptor

/-- Optional, nullable and default, which pass on what is inside, and references. -/
def IsWrapper : Descriptor → Prop
  | optional _ | nullable _ | orDefault _ _ | reference _ => True
  | _ => False

/-- The first descriptor leads to the second one through wrappers only. -/
def Wraps (entries : List (String × Descriptor)) : Descriptor → Descriptor → Prop :=
  Relation.ReflTransGen fun d e ↦ d.IsWrapper ∧ LeadsTo entries d e

/-- References followed there is no union and no timestamp, and no optional descriptor wraps a
default. -/
structure IsReversible (entries : List (String × Descriptor)) (root : Descriptor) : Prop where
  noUnion : ∀ alternatives, ¬ Reaches entries root (.union alternatives)
  noDatetime : ¬ Reaches entries root .datetime
  noHiddenDefault : ∀ inner d value, Reaches entries root (.optional inner) →
    ¬ Wraps entries inner (.orDefault d value)

variable {ρ : Type} [Regex.Engine ρ] {entries : List (String × Descriptor)} {d e : Descriptor}
  {s : JsonSchema}

theorem IsReversible.step (h : IsReversible entries d) (hstep : LeadsTo entries d e) :
    IsReversible entries e where
  noUnion alternatives hreach := h.noUnion alternatives (.head hstep hreach)
  noDatetime hreach := h.noDatetime (.head hstep hreach)
  noHiddenDefault inner d value hreach := h.noHiddenDefault inner d value (.head hstep hreach)

theorem IsReversible.child (h : IsReversible entries d) (hchild : e ∈ d.children) :
    IsReversible entries e :=
  h.step (.inl hchild)

theorem Wraps.reaches (h : Wraps entries d e) : Reaches entries d e :=
  Relation.ReflTransGen.mono (fun _ _ hstep ↦ hstep.2) _ _ h

/-- Without unions, and without defaults behind wrappers, an absent value is read as null if it is
read at all. -/
theorem Denotes.eq_null_of_absent (hs : Denotes entries d s) (h : IsReversible entries d)
    (hdefault : ∀ inner value, ¬ Wraps entries d (.orDefault inner value)) {v : Json}
    (hv : s.parseInput none = .ok v) : v = .null := by
  induction hs with
  | string => exact absurd hv (stringSchema_isNormalizing.absent v)
  | pattern => exact absurd hv (stringSchema_isNormalizing.absent v)
  | number => exact absurd hv (numberSchema_isNormalizing.absent v)
  | integer => exact absurd hv (integerSchema_isNormalizing.absent v)
  | boolean => exact absurd hv (booleanSchema_isNormalizing.absent v)
  | datetime => cases hv
  | array | set | tuple | indexed => cases hv
  | object _ _ hobject =>
    obtain ⟨-, rfl⟩ := objectSchema_eq_ok_iff.1 hobject
    cases hv
  | @optional inner t hinner ih =>
    have hstep : LeadsTo entries (.optional inner) inner := .inl (List.mem_singleton_self _)
    rcases (optionalSchema_parseInput_eq_ok_iff (hinner.fits none)).1 hv with ht | ⟨-, rfl, -⟩
    · exact ih (h.step hstep) (fun d value hd ↦ hdefault d value (.head ⟨trivial, hstep⟩ hd)) ht
    · rfl
  | @nullable inner t hinner ih =>
    have hstep : LeadsTo entries (.nullable inner) inner := .inl (List.mem_singleton_self _)
    have hnone : (nullableSchema t).parseInput none = t.parseInput none :=
      nullableSchema_parseInput_of_ne nofun
    rw [hnone] at hv
    exact ih (h.step hstep) (fun d value hd ↦ hdefault d value (.head ⟨trivial, hstep⟩ hd)) hv
  | @orDefault inner t raw value hinner ht ih => exact absurd .refl (hdefault inner raw)
  | @union ds t ts length items ih => exact absurd .refl (h.noUnion ds)
  | @reference name target t hlookup htarget ih =>
    have hstep : LeadsTo entries (.reference name) target := .inr ⟨name, rfl, hlookup⟩
    exact ih (h.step hstep) (fun d value hd ↦ hdefault d value (.head ⟨trivial, hstep⟩ hd)) hv

/-- The schema of a reversible descriptor restores what it reads. -/
theorem Denotes.roundTrips (hs : Denotes entries d s) (h : IsReversible entries d) :
    s.RoundTrips := by
  induction hs with
  | string | pattern => exact .of_isNormalizing stringSchema_isNormalizing
  | number => exact .of_isNormalizing numberSchema_isNormalizing
  | integer => exact .of_isNormalizing integerSchema_isNormalizing
  | boolean => exact .of_isNormalizing booleanSchema_isNormalizing
  | datetime => exact absurd .refl h.noDatetime
  | @array d t hitems ih =>
    exact (ih (h.child (List.mem_singleton_self d))).array fun x ↦ hitems.isExplained _
  | @set d t hitems ih =>
    exact (ih (h.child (List.mem_singleton_self d))).set fun x ↦ hitems.isExplained _
  | @indexed d t hvalues ih =>
    exact (ih (h.child (List.mem_singleton_self d))).indexed fun x ↦ hvalues.isExplained _
  | @tuple ds t ts length items ih =>
    refine .sequence (forall_mem_of_forall_mem_zip length fun item hitem ↦ ?_)
      fun s hs x ↦ isExplained_of_zip length items s hs _
    exact ih item hitem (h.child (List.of_mem_zip hitem).1)
  | @object fields denyUnknown ts t length items hobject ih =>
    obtain ⟨hnames, rfl⟩ := objectSchema_eq_ok_iff.1 hobject
    refine .record hnames.2 ?_ (isExplained_of_fields length items)
    apply forall_mem_zip_fst (p := Schema.RoundTrips) length
    intro item hitem
    exact ih item hitem (h.child (List.of_mem_zip hitem).1)
  | @optional inner t hinner ih =>
    have hstep : LeadsTo entries (.optional inner) inner := .inl (List.mem_singleton_self _)
    have hdefault : ∀ d value, ¬ Wraps entries inner (.orDefault d value) := fun d value ↦
      h.noHiddenDefault inner d value .refl
    exact (ih (h.step hstep)).optional hinner.fits hinner.keepsNull fun v hv ↦
      hinner.eq_null_of_absent (h.step hstep) hdefault hv
  | @nullable inner t hinner ih =>
    exact (ih (h.child (List.mem_singleton_self inner))).nullable hinner.keepsNull
  | @orDefault inner t raw value hinner hvalue ih =>
    exact (ih (h.child (List.mem_singleton_self inner))).orDefault hvalue
  | @union ds t ts length items ih => exact absurd .refl (h.noUnion ds)
  | @reference name target t hlookup htarget ih => exact ih (h.step (.inr ⟨name, rfl, hlookup⟩))

end Descriptor

/-! ## Catalogs -/

/-- Whatever a schema of a catalog reads, alone or in a field, it restores, if its descriptor is
reversible. -/
theorem Catalog.restores_of_isReversible {ρ : Type} [Regex.Engine ρ] {source : CatalogSource}
    {catalog : Catalog} {name : String} {s : JsonSchema} (h : source.compile = .ok catalog)
    (hs : catalog.get name = .ok s)
    (hreversible : Descriptor.IsReversible source.schemas.entries (.reference name)) :
    (∀ raw v, s.parse raw = .ok v → ∃ w, s.serialize v = .ok w ∧ s.parse w = .ok v) ∧
      ∀ input v, s.parseInput input = .ok v →
        ∃ written, s.serializeField v = .ok written ∧ s.parseInput written = .ok v := by
  have hroundTrips := (CatalogSource.denotes_of_get h hs).roundTrips hreversible
  exact ⟨hroundTrips.root, hroundTrips.field⟩

/-! ## A small catalog -/

namespace Catalog

open Descriptor

/-- Entries with a label, which can be left out, and a mark, which is off by default. -/
def entrySource : CatalogSource :=
  ⟨"1", ⟨[("entry", .object [("label", .optional (.reference "text")),
    ("mark", .orDefault (.boolean false) (.bool false))] true), ("text", .string true none)]⟩⟩

def entrySchema : JsonSchema :=
  recordSchema [("label", optionalSchema (stringSchema true none)),
    ("mark", (booleanSchema false).orDefault (.bool false))] true

def entryCatalog : Catalog :=
  ⟨[("entry", entrySchema), ("text", stringSchema true none)]⟩

theorem compile_entrySource : entrySource.compile = .ok entryCatalog := by
  have hmark : (booleanSchema false).parse (.bool false) = .ok (.bool false) := rfl
  have hentry : objectSchema [("label", optionalSchema (stringSchema true none)),
      ("mark", (booleanSchema false).orDefault (.bool false))] true = .ok entrySchema :=
    objectSchema_eq_ok_iff.2 ⟨⟨by decide, by decide⟩, rfl⟩
  simp only [CatalogSource.compile, entrySource, SortedMap.keys, List.map, compileAll, bind, pure,
    Compile.andThen]
  rw [compileNamed_eq]
  simp only [CompilerState.empty, List.lookup_cons, List.contains_nil, beq_self_eq_true,
    compileUnder, compile, compileFields, bind, Compile.andThen, Bool.false_eq_true, if_false, pure]
  rw [compileNamed_eq]
  simp [CompilerState.enter, CompilerState.leave, CompilerState.remember, entriesBesides,
    compileUnder, compile, pure, hmark, hentry]
  rw [compileNamed_eq]
  simp [List.lookup_cons, entryCatalog]

theorem mem_of_entry_reaches {e : Descriptor}
    (h : Reaches entrySource.schemas.entries (.reference "entry") e) :
    e ∈ [.reference "entry", .object [("label", .optional (.reference "text")),
      ("mark", .orDefault (.boolean false) (.bool false))] true, .optional (.reference "text"),
      .reference "text", .string true none, .orDefault (.boolean false) (.bool false),
      .boolean false] := by
  refine mem_of_reaches List.mem_cons_self ?_ h
  simp [LeadsTo, children, entrySource, List.lookup_cons]

theorem mem_of_text_reaches {e : Descriptor}
    (h : Reaches entrySource.schemas.entries (.reference "text") e) :
    e ∈ [.reference "text", .string true none] := by
  refine mem_of_reaches List.mem_cons_self ?_ h
  simp [LeadsTo, children, entrySource, List.lookup_cons]

theorem eq_text_of_entry_reaches {inner : Descriptor}
    (h : Reaches entrySource.schemas.entries (.reference "entry") (.optional inner)) :
    inner = .reference "text" := by
  simpa using mem_of_entry_reaches h

theorem entry_isReversible :
    IsReversible entrySource.schemas.entries (.reference "entry") := by
  refine ⟨fun alternatives h ↦ ?_, fun h ↦ ?_, fun inner d value h hwraps ↦ ?_⟩
  · simpa using mem_of_entry_reaches h
  · simpa using mem_of_entry_reaches h
  · rw [eq_text_of_entry_reaches h] at hwraps
    simpa using mem_of_text_reaches hwraps.reaches

theorem entry_restores :
    entrySource.compile = .ok entryCatalog ∧ entryCatalog.get "entry" = .ok entrySchema ∧
      IsReversible entrySource.schemas.entries (.reference "entry") ∧
      (∀ raw v, entrySchema.parse raw = .ok v →
        ∃ w, entrySchema.serialize v = .ok w ∧ entrySchema.parse w = .ok v) ∧
      ∀ input v, entrySchema.parseInput input = .ok v → ∃ written,
        entrySchema.serializeField v = .ok written ∧ entrySchema.parseInput written = .ok v :=
  ⟨compile_entrySource, rfl, entry_isReversible,
    restores_of_isReversible compile_entrySource rfl entry_isReversible⟩

end Catalog

end TwoWaySchema
