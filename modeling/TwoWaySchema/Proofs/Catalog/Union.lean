import TwoWaySchema.Proofs.Catalog.Mismatch
import TwoWaySchema.Proofs.Catalog.RoundTrip

/-!
# Unions of catalogs

A union reads with the first alternative that accepts the data and writes with the first one that
the value does not mismatch.  These need not be the same alternative: an object schema writes every
object whose fields it knows and leaves out the rest.  So a union of schemas that restore what they
read may lose part of a value, and what decides is whether the first alternative that accepts what
was written reads the value again.
-/

namespace TwoWaySchema

/-- The first of the alternatives that does not fail on the data reads the value. -/
inductive ReadsFirst : List JsonSchema → Json → Json → Prop
  | head {s : JsonSchema} {rest : List JsonSchema} {raw v : Json} (h : s.parse raw = .ok v) :
      ReadsFirst (s :: rest) raw v
  | tail {s : JsonSchema} {rest : List JsonSchema} {raw v : Json} {failure : Failure}
      (h : s.parse raw = .error failure) (hrest : ReadsFirst rest raw v) :
      ReadsFirst (s :: rest) raw v

/-- The first of the alternatives that the value does not mismatch writes the data. -/
inductive WritesFirst : List JsonSchema → Json → Json → Prop
  | head {s : JsonSchema} {rest : List JsonSchema} {v w : Json} (h : s.serialize v = .ok w) :
      WritesFirst (s :: rest) v w
  | tail {s : JsonSchema} {rest : List JsonSchema} {v w : Json} {error : SerializeError}
      (h : s.serialize v = .error error) (hmismatch : error.isMismatch = true)
      (hrest : WritesFirst rest v w) : WritesFirst (s :: rest) v w

section First

variable {s t : JsonSchema} {rest : List JsonSchema} {raw v w : Json}

theorem readsFirst_of_ok {a : Json} (h : s.parse raw = .ok a) :
    ReadsFirst (s :: rest) raw v ↔ a = v := by
  constructor
  · intro hv
    cases hv with
    | head hs => exact Except.ok.inj (h.symm.trans hs)
    | tail hs _ => cases h.symm.trans hs
  · rintro rfl
    exact .head h

theorem readsFirst_of_error {failure : Failure} (h : s.parse raw = .error failure) :
    ReadsFirst (s :: rest) raw v ↔ ReadsFirst rest raw v := by
  constructor
  · intro hv
    cases hv with
    | head hs => cases h.symm.trans hs
    | tail _ hrest => exact hrest
  · exact .tail h

theorem writesFirst_of_ok {x : Json} (h : s.serialize v = .ok x) :
    WritesFirst (s :: rest) v w ↔ x = w := by
  constructor
  · intro hw
    cases hw with
    | head hs => exact Except.ok.inj (h.symm.trans hs)
    | tail hs _ _ => cases h.symm.trans hs
  · rintro rfl
    exact .head h

theorem writesFirst_of_error {error : SerializeError} (h : s.serialize v = .error error) :
    WritesFirst (s :: rest) v w ↔ error.isMismatch = true ∧ WritesFirst rest v w := by
  constructor
  · intro hw
    cases hw with
    | head hs => cases h.symm.trans hs
    | tail hs hmismatch hrest =>
      rw [Except.error.inj (h.symm.trans hs)]
      exact ⟨hmismatch, hrest⟩
  · rintro ⟨hmismatch, hrest⟩
    exact .tail h hmismatch hrest

theorem readsFirst_append {before after : List JsonSchema} (h : s.parse raw = .ok v)
    (hbefore : ∀ t ∈ before, ∃ failure, t.parse raw = .error failure) :
    ReadsFirst (before ++ s :: after) raw v := by
  induction before with
  | nil => exact .head h
  | cons t before ih =>
    obtain ⟨⟨failure, hfailure⟩, hrest⟩ := List.forall_mem_cons.1 hbefore
    exact .tail hfailure (ih hrest)

theorem writesFirst_append {before after : List JsonSchema} (h : s.serialize v = .ok w)
    (hbefore : ∀ t ∈ before, ∃ error, t.serialize v = .error error ∧ error.isMismatch = true) :
    WritesFirst (before ++ s :: after) v w := by
  induction before with
  | nil => exact .head h
  | cons t before ih =>
    obtain ⟨⟨error, herror, hmismatch⟩, hrest⟩ := List.forall_mem_cons.1 hbefore
    exact .tail herror hmismatch (ih hrest)

/-- A union of two alternatives reads like the two in turn. -/
theorem readsFirst_or : ReadsFirst (s.or t :: rest) raw v ↔ ReadsFirst (s :: t :: rest) raw v := by
  have hor : (s.or t).parse raw = (Shape.union s.shape t.shape).parse (some raw) := rfl
  rw [Shape.parse] at hor
  cases hs : s.parse raw with
  | ok a =>
    have hs' : s.shape.parse (some raw) = .ok a := hs
    rw [hs'] at hor
    rw [readsFirst_of_ok hor, readsFirst_of_ok hs]
  | error f =>
    have hs' : s.shape.parse (some raw) = .error f := hs
    rw [hs'] at hor
    rw [readsFirst_of_error hs]
    cases ht : t.parse raw with
    | ok b =>
      have ht' : t.shape.parse (some raw) = .ok b := ht
      simp only [Parts.readEither, Thunk.get, ht'] at hor
      rw [readsFirst_of_ok hor, readsFirst_of_ok ht]
    | error g =>
      have ht' : t.shape.parse (some raw) = .error g := ht
      simp only [Parts.readEither, Thunk.get, ht'] at hor
      rw [readsFirst_of_error hor, readsFirst_of_error ht]

/-- A union of two alternatives writes like the two in turn. -/
theorem writesFirst_or : WritesFirst (s.or t :: rest) v w ↔ WritesFirst (s :: t :: rest) v w := by
  have hor : (s.or t).serialize v = Writer.firstMatching
      (s.shape.describe ++ " | " ++ t.shape.describe) (s.serialize v) (t.serialize v) := rfl
  unfold Writer.firstMatching at hor
  cases hs : s.serialize v with
  | ok x =>
    rw [hs] at hor
    rw [writesFirst_of_ok hor, writesFirst_of_ok hs]
  | error e =>
    rw [hs] at hor
    rw [writesFirst_of_error hs]
    by_cases he : e.isMismatch = true
    · simp only [he, if_true, Thunk.get] at hor
      cases ht : t.serialize v with
      | ok x =>
        simp only [ht] at hor
        rw [writesFirst_of_ok hor, writesFirst_of_ok ht, and_iff_right he]
      | error e' =>
        simp only [ht] at hor
        rw [writesFirst_of_error hor, writesFirst_of_error ht, and_iff_right he]
        by_cases he' : e'.isMismatch = true
        · rw [if_pos he', and_iff_right he']
          exact and_iff_right rfl
        · rw [if_neg he']
    · simp only [he, if_false, Bool.false_eq_true] at hor
      rw [writesFirst_of_error hor]
      simp [he]

end First

namespace Descriptor

variable {ρ : Type} [Regex.Engine ρ] {s : JsonSchema} {others : List JsonSchema} {raw v w : Json}

theorem unionSchema_parse_eq_ok_iff :
    (unionSchema s others).parse raw = .ok v ↔ ReadsFirst (s :: others) raw v := by
  induction others generalizing s with
  | nil =>
    constructor
    · exact .head
    · rintro (h | ⟨-, ⟨⟩⟩)
      exact h
  | cons t rest ih => exact ih.trans readsFirst_or

theorem unionSchema_serialize_eq_ok_iff :
    (unionSchema s others).serialize v = .ok w ↔ WritesFirst (s :: others) v w := by
  induction others generalizing s with
  | nil =>
    constructor
    · exact .head
    · rintro (h | ⟨-, -, ⟨⟩⟩)
      exact h
  | cons t rest ih => exact ih.trans writesFirst_or

/-! ## Round trips -/

/-- An alternative that restores what it reads leaves something to write: if none before it does,
it is itself the one that writes. -/
theorem exists_writesFirst {alternatives : List JsonSchema}
    (hmismatch : ∀ s ∈ alternatives, s.MismatchesOnly)
    (hrestores : ∀ s ∈ alternatives, ∀ raw v, s.parse raw = .ok v → s.Restores v)
    (h : ReadsFirst alternatives raw v) : ∃ w, WritesFirst alternatives v w := by
  induction h with
  | @head s rest raw v h =>
    obtain ⟨w, hw, -⟩ := hrestores s List.mem_cons_self raw v h
    exact ⟨w, .head hw⟩
  | @tail s rest raw v failure h _ ih =>
    obtain ⟨hs, hrest⟩ := List.forall_mem_cons.1 hmismatch
    obtain ⟨-, hrestores'⟩ := List.forall_mem_cons.1 hrestores
    cases hwrite : s.serialize v with
    | ok w => exact ⟨w, .head hwrite⟩
    | error e =>
      obtain ⟨w, hw⟩ := ih hrest hrestores'
      exact ⟨w, .tail hwrite (hs.root v e hwrite) hw⟩

/-- An alternative that reads the value restores it in the union too, if none before it writes the
value or accepts what it writes. -/
theorem exists_writesFirst_readsFirst {before after : List JsonSchema}
    (hmismatch : ∀ t ∈ before, t.MismatchesOnly) (hrestores : s.Restores v)
    (hbefore : ∀ t ∈ before, (∃ error, t.serialize v = .error error) ∧
      ∀ w, s.serialize v = .ok w → ∃ failure, t.parse w = .error failure) :
    ∃ w, WritesFirst (before ++ s :: after) v w ∧ ReadsFirst (before ++ s :: after) w v := by
  obtain ⟨w, hw, hread⟩ := hrestores
  refine ⟨w, ?_, ?_⟩
  · apply writesFirst_append hw
    intro t ht
    obtain ⟨⟨error, herror⟩, -⟩ := hbefore t ht
    exact ⟨error, herror, (hmismatch t ht).root v error herror⟩
  · apply readsFirst_append hread
    intro t ht
    exact (hbefore t ht).2 w hw

theorem Denotes.union_alternatives {entries : List (String × Descriptor)} {ds : List Descriptor}
    {u : JsonSchema} {alternatives : List JsonSchema} (hu : Denotes entries (.union ds) u)
    (h : List.Forall₂ (Denotes entries) ds alternatives) :
    ∃ s others, alternatives = s :: others ∧ u = unionSchema s others := by
  cases hu with
  | @union _ s ss length items =>
    refine ⟨s, ss, ?_, rfl⟩
    obtain ⟨hlength, hzip⟩ := List.forall₂_iff_zip.1 h
    have hunique : ∀ item ∈ ds.zip alternatives, ∀ t, Denotes entries item.1 t → item.2 = t :=
      fun item hitem t ht ↦ (hzip hitem).unique ht
    exact Denotes.eq_of_zip hlength length hunique items

end Descriptor

namespace Catalog

variable {source : CatalogSource} {catalog : Catalog} {name : String} {u : JsonSchema}
  {ds : List Descriptor} {alternatives : List JsonSchema}

/-- A union of alternatives that restore what they read always writes what it has read.  It restores
the value if and only if the first alternative that accepts what was written, by the first one that
writes it, reads the value.  That is so when no alternative before one that reads the value writes
it too or accepts what that one writes. -/
theorem union_restores_iff {ρ : Type} [Regex.Engine ρ] (h : source.compile = .ok catalog)
    (hu : catalog.get name = .ok u)
    (hd : source.schemas.entries.lookup name = some (.union ds))
    (halternatives : List.Forall₂ (Descriptor.Denotes source.schemas.entries) ds alternatives)
    (hrestores : ∀ s ∈ alternatives, ∀ raw v, s.parse raw = .ok v →
      ∃ w, s.serialize v = .ok w ∧ s.parse w = .ok v)
    {raw v : Json} (hv : u.parse raw = .ok v) :
    (∃ w, u.serialize v = .ok w) ∧
      ((∃ w, u.serialize v = .ok w ∧ u.parse w = .ok v) ↔
        ∃ w, WritesFirst alternatives v w ∧ ReadsFirst alternatives w v) ∧
      ∀ before s after, alternatives = before ++ s :: after → s.parse raw = .ok v →
        (∀ t ∈ before, (∃ error, t.serialize v = .error error) ∧
          ∀ w, s.serialize v = .ok w → ∃ failure, t.parse w = .error failure) →
        ∃ w, u.serialize v = .ok w ∧ u.parse w = .ok v := by
  have hunion : Descriptor.Denotes source.schemas.entries (.union ds) u := by
    cases CatalogSource.denotes_of_get h hu with
    | reference hlookup target =>
      rw [Option.some.inj (hd.symm.trans hlookup)]
      exact target
  have hmismatch : ∀ s ∈ alternatives, s.MismatchesOnly := by
    intro s hs
    obtain ⟨d, -, hsd⟩ := exists_of_forall₂_right halternatives s hs
    exact hsd.mismatchesOnly
  obtain ⟨first, others, hsplit, rfl⟩ := hunion.union_alternatives halternatives
  have hreads : ∀ raw v, (Descriptor.unionSchema first others).parse raw = .ok v ↔
      ReadsFirst alternatives raw v := by
    intro raw v
    rw [hsplit]
    exact Descriptor.unionSchema_parse_eq_ok_iff
  have hwrites : ∀ v w, (Descriptor.unionSchema first others).serialize v = .ok w ↔
      WritesFirst alternatives v w := by
    intro v w
    rw [hsplit]
    exact Descriptor.unionSchema_serialize_eq_ok_iff
  have hwritten := Descriptor.exists_writesFirst hmismatch hrestores ((hreads raw v).1 hv)
  simp only [hreads, hwrites]
  refine ⟨hwritten, trivial, ?_⟩
  intro before s after halternatives hs hbefore
  subst halternatives
  apply Descriptor.exists_writesFirst_readsFirst _ _ hbefore
  · intro t ht
    exact hmismatch t (List.mem_append_left _ ht)
  · exact hrestores s (List.mem_append_right _ List.mem_cons_self) raw v hs

/-! ## A union that loses a field -/

open Descriptor

/-- Either an object with a name or one with a mark; both take members that they do not know. -/
def eitherSource : CatalogSource :=
  ⟨"1", ⟨[("either", .union [.object [("name", .string false none)] false,
    .object [("mark", .boolean false)] false])]⟩⟩

def namedSchema : JsonSchema :=
  recordSchema [("name", stringSchema false none)] false

def markedSchema : JsonSchema :=
  recordSchema [("mark", booleanSchema false)] false

def eitherSchema : JsonSchema :=
  unionSchema namedSchema [markedSchema]

def eitherCatalog : Catalog :=
  ⟨[("either", eitherSchema)]⟩

theorem namedSchema_denoted :
    objectSchema [("name", stringSchema false none)] false = .ok namedSchema :=
  objectSchema_eq_ok_iff.2 ⟨⟨by decide, by decide⟩, rfl⟩

theorem markedSchema_denoted :
    objectSchema [("mark", booleanSchema false)] false = .ok markedSchema :=
  objectSchema_eq_ok_iff.2 ⟨⟨by decide, by decide⟩, rfl⟩

theorem compile_eitherSource : eitherSource.compile = .ok eitherCatalog := by
  simp only [CatalogSource.compile, eitherSource, SortedMap.keys, List.map, compileAll, bind, pure,
    Compile.andThen]
  rw [compileNamed_eq]
  simp [CompilerState.empty, CompilerState.enter, CompilerState.leave, CompilerState.remember,
    compileUnder, compile, compileItems, compileFields, bind, Compile.andThen, pure,
    namedSchema_denoted, markedSchema_denoted, eitherCatalog, eitherSchema]

theorem either_alternatives :
    List.Forall₂ (Denotes eitherSource.schemas.entries)
      [.object [("name", .string false none)] false, .object [("mark", .boolean false)] false]
      [namedSchema, markedSchema] := by
  refine .cons ?_ (.cons ?_ .nil)
  · refine @Denotes.object _ _ _ _ _ [stringSchema false none] _ rfl ?_ namedSchema_denoted
    simp [Denotes.string]
  · refine @Denotes.object _ _ _ _ _ [booleanSchema false] _ rfl ?_ markedSchema_denoted
    simp [Denotes.boolean]

theorem either_restores : ∀ s ∈ [namedSchema, markedSchema], ∀ raw v, s.parse raw = .ok v →
    ∃ w, s.serialize v = .ok w ∧ s.parse w = .ok v := by
  have hnamed : namedSchema.RoundTrips := by
    refine .record (List.nodup_singleton _) ?_ ?_
    · simpa using .of_isNormalizing stringSchema_isNormalizing
    · intro item hitem input
      obtain rfl := List.mem_singleton.1 hitem
      exact stringSchema_fits.isExplained
  have hmarked : markedSchema.RoundTrips := by
    refine .record (List.nodup_singleton _) ?_ ?_
    · simpa using .of_isNormalizing booleanSchema_isNormalizing
    · intro item hitem input
      obtain rfl := List.mem_singleton.1 hitem
      exact booleanSchema_fits.isExplained
  intro s hs
  rcases List.mem_cons.1 hs with rfl | hs
  · exact hnamed.root
  · obtain rfl := List.mem_singleton.1 hs
    exact hmarked.root

theorem either_parse : eitherSchema.parse (.object [("mark", .bool true)]) =
    .ok (.object [("mark", .bool true)]) := rfl

/-- The object with a mark is written by the schema of objects with a name, without its mark, and
what is left is neither. -/
theorem either_loses_mark :
    eitherSource.compile = .ok eitherCatalog ∧ eitherCatalog.get "either" = .ok eitherSchema ∧
      (∀ s ∈ [namedSchema, markedSchema], ∀ raw v, s.parse raw = .ok v →
        ∃ w, s.serialize v = .ok w ∧ s.parse w = .ok v) ∧
      eitherSchema.parse (.object [("mark", .bool true)]) = .ok (.object [("mark", .bool true)]) ∧
      eitherSchema.serialize (.object [("mark", .bool true)]) = .ok (.object []) ∧
      ∀ v, eitherSchema.parse (.object []) ≠ .ok v :=
  ⟨compile_eitherSource, rfl, either_restores, either_parse, rfl, fun v h ↦ by cases h⟩

theorem either_restores_mark_iff :
    eitherSource.compile = .ok eitherCatalog ∧ eitherCatalog.get "either" = .ok eitherSchema ∧
      eitherSchema.parse (.object [("mark", .bool true)]) = .ok (.object [("mark", .bool true)]) ∧
      ((∃ w, eitherSchema.serialize (.object [("mark", .bool true)]) = .ok w ∧
          eitherSchema.parse w = .ok (.object [("mark", .bool true)])) ↔
        ∃ w, WritesFirst [namedSchema, markedSchema] (.object [("mark", .bool true)]) w ∧
          ReadsFirst [namedSchema, markedSchema] w (.object [("mark", .bool true)])) := by
  have hget : eitherCatalog.get "either" = .ok eitherSchema := rfl
  have hlookup : eitherSource.schemas.entries.lookup "either" =
      some (.union [.object [("name", .string false none)] false,
        .object [("mark", .boolean false)] false]) := rfl
  refine ⟨compile_eitherSource, hget, either_parse, ?_⟩
  exact (union_restores_iff compile_eitherSource hget hlookup either_alternatives either_restores
    either_parse).2.1

end Catalog

end TwoWaySchema
