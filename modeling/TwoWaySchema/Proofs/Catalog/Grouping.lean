import TwoWaySchema.Proofs.Catalog.Union

/-!
# Unions of unions

Alternatives can be grouped into unions of unions in any way from left to right, and the schema
stays what it is.  A failure that is not that of a missing value gets one summary, which replaces
those of the unions inside, and a value is missing for all alternatives or for none.  So it does not
matter which two neighbours come together first, and every grouping comes down to the flat union.
-/

namespace TwoWaySchema

/-! ## Schemas that agree -/

/-- Two schemas do the same, whatever they are used for. -/
structure Schema.Agrees {σ α : Type} (s t : Schema σ α) : Prop where
  parseInput : ∀ input, s.parseInput input = t.parseInput input
  serialize : ∀ v, s.serialize v = t.serialize v
  serializeField : ∀ v, s.serializeField v = t.serializeField v
  validate : ∀ v, s.validate v = t.validate v
  describe : s.describe = t.describe

/-- A failure of the schema, on whatever input, fits the input. -/
def Schema.FailsFittingly {σ α : Type} (s : Schema σ α) : Prop :=
  ∀ input, (s.parseInput input).Fits input

/-! ## Three in a row -/

/-- What a union says of a value that none of its alternatives accepts. -/
def unionSummary (description : String) : ErrorEntry :=
  ⟨[], .unionExhausted, "value matches none of " ++ description⟩

/-- The errors of a failure, but for those by which unions sum up their alternatives. -/
def Failure.withoutSummaries (failure : Failure) : List ErrorEntry :=
  failure.errors.filter fun entry ↦ !entry.isSummary

namespace Parts

variable {α : Type} {input : Option Json} {description left right : String} {f g h : Failure}

theorem exhausted_of_isVacant (hinput : IsVacant input) (hf : f.Fits input) (hg : g.Fits input) :
    exhausted description f g = .missing := by
  have hmissing : (f.isMissing && g.isMissing) = true :=
    Bool.and_eq_true_iff.2 ⟨hf.isMissing_iff.2 hinput, hg.isMissing_iff.2 hinput⟩
  rw [exhausted, if_pos hmissing]

theorem exhausted_of_not_isVacant (hinput : ¬ IsVacant input) (hf : f.Fits input) :
    exhausted description f g =
      ⟨unionSummary description :: (f.withoutSummaries ++ g.withoutSummaries), none⟩ := by
  have hpresent : ¬ (f.isMissing && g.isMissing) = true := fun hmissing ↦
    hinput (hf.isMissing_iff.1 (Bool.and_eq_true_iff.1 hmissing).1)
  rw [exhausted, if_neg hpresent]
  simp only [List.filter_append]
  rfl

/-- The summary of a union inside another one is left out there. -/
theorem withoutSummaries_summarized {entries : List ErrorEntry}
    (h : ∀ entry ∈ entries, entry.isSummary = false) :
    Failure.withoutSummaries ⟨unionSummary description :: entries, none⟩ = entries := by
  have hsummary : (unionSummary description).isSummary = true := rfl
  simpa [Failure.withoutSummaries, hsummary, List.filter_eq_self] using h

theorem isSummary_eq_false_of_mem {entry : ErrorEntry} (h : entry ∈ f.withoutSummaries) :
    entry.isSummary = false := by
  simpa using (List.mem_filter.1 h).2

theorem withoutSummaries_exhausted (hinput : ¬ IsVacant input) (hf : f.Fits input) :
    (exhausted description f g).withoutSummaries = f.withoutSummaries ++ g.withoutSummaries := by
  rw [exhausted_of_not_isVacant hinput hf]
  refine withoutSummaries_summarized fun entry hentry ↦ ?_
  rcases List.mem_append.1 hentry with hentry | hentry
  · exact isSummary_eq_false_of_mem hentry
  · exact isSummary_eq_false_of_mem hentry

theorem exhausted_assoc (hf : f.Fits input) (hg : g.Fits input) (hh : h.Fits input) :
    exhausted description (exhausted left f g) h =
      exhausted description f (exhausted right g h) := by
  have hfg : (exhausted left f g).Fits input := .exhausted hf hg
  have hgh : (exhausted right g h).Fits input := .exhausted hg hh
  by_cases hinput : IsVacant input
  · rw [exhausted_of_isVacant hinput hfg hh, exhausted_of_isVacant hinput hf hgh]
  · rw [exhausted_of_not_isVacant hinput hfg, withoutSummaries_exhausted hinput hf,
      exhausted_of_not_isVacant hinput hf, withoutSummaries_exhausted hinput hg,
      List.append_assoc]

theorem readEither_assoc {x y z : Outcome α} (hx : x.Fits input) (hy : y.Fits input)
    (hz : z.Fits input) :
    readEither description (readEither left x y) z =
      readEither description x (readEither right y z) := by
  cases x with
  | ok a => rfl
  | error f =>
    cases y with
    | ok b => rfl
    | error g =>
      cases z with
      | ok c => rfl
      | error h => exact congrArg Except.error (exhausted_assoc (hx f rfl) (hy g rfl) (hz h rfl))

end Parts

namespace Writer

variable {γ : Type} {description left right : String} {x y z : Except SerializeError γ}
  {e : SerializeError}

/-- What becomes of an error of the last alternative. -/
def unmatched (description : String) (e : SerializeError) : SerializeError :=
  if e.isMismatch then .noMatchingBranch description else e

theorem unmatched_unmatched :
    unmatched description (unmatched left e) = unmatched description e := by
  unfold unmatched
  cases he : e.isMismatch <;> simp [he, SerializeError.isMismatch]

theorem firstMatching_of_mismatch (h : e.isMismatch = true) :
    firstMatching description (.error e : Except _ γ) y = y.mapError (unmatched description) := by
  simp only [firstMatching, h]
  cases y <;> rfl

theorem firstMatching_of_not_mismatch (h : e.isMismatch = false) :
    firstMatching description (.error e : Except _ γ) y = .error e := by
  simp [firstMatching, h]

theorem firstMatching_assoc :
    firstMatching description (firstMatching left x y) z =
      firstMatching description x (firstMatching right y z) := by
  cases x with
  | ok a => rfl
  | error e =>
    cases he : e.isMismatch with
    | false => simp only [firstMatching_of_not_mismatch he]
    | true =>
      rw [firstMatching_of_mismatch he, firstMatching_of_mismatch he]
      cases y with
      | ok b => rfl
      | error f =>
        cases hf : f.isMismatch with
        | false => simp [Except.mapError, unmatched, firstMatching_of_not_mismatch hf, hf]
        | true =>
          have hleft : unmatched left f = .noMatchingBranch left := if_pos hf
          have hmismatch : (SerializeError.noMatchingBranch left).isMismatch = true := rfl
          rw [Except.mapError, hleft, firstMatching_of_mismatch hmismatch,
            firstMatching_of_mismatch hf]
          cases z <;> simp [Except.mapError, unmatched_unmatched]

end Writer

namespace Schema

variable {σ α : Type} {s t u s' t' : Schema σ α} {input : Option Json}

theorem or_parseInput :
    (s.or t).parseInput input =
      Parts.readEither (s.describe ++ " | " ++ t.describe) (s.parseInput input)
        (t.parseInput input) := by
  change (Shape.union s.shape t.shape).parse input = _
  rw [Shape.parse]
  rfl

theorem or_serialize {v : α} :
    (s.or t).serialize v =
      Writer.firstMatching (s.describe ++ " | " ++ t.describe) (s.serialize v) (t.serialize v) :=
  rfl

theorem or_serializeField {v : α} :
    (s.or t).serializeField v =
      Writer.firstMatching (s.describe ++ " | " ++ t.describe) (s.serializeField v)
        (t.serializeField v) :=
  rfl

theorem or_validate {v : α} : (s.or t).validate v = (s.validate v || t.validate v) := by
  change (Shape.union s.shape t.shape).check v = _
  rw [Shape.check]
  rfl

theorem or_describe : (s.or t).describe = s.describe ++ " | " ++ t.describe := by
  change (Shape.union s.shape t.shape).describe = _
  rw [Shape.describe]
  rfl

namespace Agrees

theorem refl (s : Schema σ α) : s.Agrees s :=
  ⟨fun _ ↦ rfl, fun _ ↦ rfl, fun _ ↦ rfl, fun _ ↦ rfl, rfl⟩

theorem symm (h : s.Agrees t) : t.Agrees s :=
  ⟨fun input ↦ (h.parseInput input).symm, fun v ↦ (h.serialize v).symm,
    fun v ↦ (h.serializeField v).symm, fun v ↦ (h.validate v).symm, h.describe.symm⟩

theorem trans (h : s.Agrees t) (h' : t.Agrees u) : s.Agrees u :=
  ⟨fun input ↦ (h.parseInput input).trans (h'.parseInput input),
    fun v ↦ (h.serialize v).trans (h'.serialize v),
    fun v ↦ (h.serializeField v).trans (h'.serializeField v),
    fun v ↦ (h.validate v).trans (h'.validate v), h.describe.trans h'.describe⟩

theorem or (hs : s.Agrees s') (ht : t.Agrees t') : (s.or t).Agrees (s'.or t') where
  parseInput input := by
    simp only [or_parseInput, hs.parseInput, ht.parseInput, hs.describe, ht.describe]
  serialize v := by
    simp only [or_serialize, hs.serialize, ht.serialize, hs.describe, ht.describe]
  serializeField v := by
    simp only [or_serializeField, hs.serializeField, ht.serializeField, hs.describe, ht.describe]
  validate v := by
    simp only [or_validate, hs.validate, ht.validate]
  describe := by
    simp only [or_describe, hs.describe, ht.describe]

theorem or_assoc (hs : s.FailsFittingly) (ht : t.FailsFittingly) (hu : u.FailsFittingly) :
    ((s.or t).or u).Agrees (s.or (t.or u)) where
  parseInput input := by
    simp only [or_parseInput, or_describe, String.append_assoc]
    exact Parts.readEither_assoc (hs input) (ht input) (hu input)
  serialize v := by
    simp only [or_serialize, or_describe, String.append_assoc]
    exact Writer.firstMatching_assoc
  serializeField v := by
    simp only [or_serializeField, or_describe, String.append_assoc]
    exact Writer.firstMatching_assoc
  validate v := by
    simp only [or_validate, Bool.or_assoc]
  describe := by
    simp only [or_describe, String.append_assoc]

end Agrees

end Schema

/-! ## Flat unions -/

namespace Descriptor

variable {s t u : JsonSchema} {ss ts : List JsonSchema}

theorem unionSchema_failsFittingly (h : ∀ t ∈ s :: ss, t.FailsFittingly) :
    (unionSchema s ss).FailsFittingly :=
  unionSchema_of_or (p := Schema.FailsFittingly)
    (fun _ _ hs ht input ↦ or_fits (hs input) (ht input)) h

theorem unionSchema_agrees (h : s.Agrees t) : (unionSchema s ss).Agrees (unionSchema t ss) := by
  induction ss generalizing s t with
  | nil => exact h
  | cons u us ih => exact ih (h.or (.refl u))

/-- The union of a schema and a union has the schema as its first alternative. -/
theorem or_unionSchema_agrees (hs : s.FailsFittingly) (ht : ∀ u ∈ t :: ts, u.FailsFittingly) :
    (s.or (unionSchema t ts)).Agrees (unionSchema (s.or t) ts) := by
  induction ts generalizing t with
  | nil => exact .refl _
  | cons u us ih =>
    obtain ⟨ht, hrest⟩ := List.forall_mem_cons.1 ht
    obtain ⟨hu, hus⟩ := List.forall_mem_cons.1 hrest
    have htu : (t.or u).FailsFittingly := fun input ↦ or_fits (ht input) (hu input)
    have hassoc : ((s.or t).or u).Agrees (s.or (t.or u)) := .or_assoc hs ht hu
    exact (ih (List.forall_mem_cons.2 ⟨htu, hus⟩)).trans (unionSchema_agrees hassoc.symm)

theorem unionSchema_append : unionSchema s (ss ++ ts) = unionSchema (unionSchema s ss) ts :=
  List.foldl_append

/-- Two unions side by side are the union of all their alternatives. -/
theorem unionSchema_or_agrees (hs : ∀ u ∈ s :: ss, u.FailsFittingly)
    (ht : ∀ u ∈ t :: ts, u.FailsFittingly) :
    ((unionSchema s ss).or (unionSchema t ts)).Agrees (unionSchema s (ss ++ t :: ts)) := by
  rw [unionSchema_append]
  exact or_unionSchema_agrees (unionSchema_failsFittingly hs) ht

theorem or_parse_eq_error {raw : Json} {f g : Failure} (hf : s.parse raw = .error f)
    (hg : t.parse raw = .error g) :
    (s.or t).parse raw = .error (Parts.exhausted (s.or t).describe f g) := by
  have hread : (s.or t).parse raw = Parts.readEither (s.describe ++ " | " ++ t.describe)
    (s.parse raw) (t.parse raw) := Schema.or_parseInput
  rw [hread, hf, hg, Schema.or_describe]
  rfl

/-- A failure of two alternatives or more starts with their one summary, and the rest are the other
errors of each, from left to right. -/
theorem unionSchema_parse_eq_error {raw : Json} {f g : Failure} {failures : List Failure}
    (hraw : raw ≠ .null) (h : ∀ u ∈ s :: t :: ts, u.FailsFittingly) (hf : s.parse raw = .error f)
    (hg : t.parse raw = .error g)
    (hfailures : List.Forall₂ (fun u failure ↦ u.parse raw = .error failure) ts failures) :
    (unionSchema s (t :: ts)).parse raw = .error
      ⟨unionSummary (unionSchema s (t :: ts)).describe ::
        (f :: g :: failures).flatMap Failure.withoutSummaries, none⟩ := by
  have hpresent : ¬ IsVacant (some raw) := not_isVacant_some.2 hraw
  induction hfailures generalizing s t f g with
  | nil =>
    obtain ⟨hs, -⟩ := List.forall_mem_cons.1 h
    change (s.or t).parse raw = _
    rw [or_parse_eq_error hf hg, Parts.exhausted_of_not_isVacant hpresent (hs _ f hf)]
    simp only [List.flatMap_cons, List.flatMap_nil, List.append_nil]
    rfl
  | @cons u failure us failures hu _ ih =>
    obtain ⟨hs, hrest⟩ := List.forall_mem_cons.1 h
    obtain ⟨ht, hus⟩ := List.forall_mem_cons.1 hrest
    have hst : (s.or t).FailsFittingly := fun input ↦ or_fits (hs input) (ht input)
    have hflat := ih (List.forall_mem_cons.2 ⟨hst, hus⟩) (or_parse_eq_error hf hg) hu
    rw [List.flatMap_cons, Parts.withoutSummaries_exhausted hpresent (hs _ f hf)] at hflat
    rw [List.flatMap_cons, List.flatMap_cons, ← List.append_assoc]
    exact hflat

/-! ## Groupings -/

/-- The alternatives, from left to right, are grouped into the descriptor by unions of unions. -/
inductive Groups : Descriptor → List Descriptor → Prop
  | alternative (d : Descriptor) : Groups d [d]
  | union {ds : List Descriptor} {parts : List (List Descriptor)}
      (length : ds.length = parts.length)
      (items : ∀ item ∈ ds.zip parts, Groups item.1 item.2) : Groups (.union ds) parts.flatten

variable {ρ : Type} [Regex.Engine ρ] {entries : List (String × Descriptor)} {d : Descriptor}
  {ds : List Descriptor}

/-- The schema agrees with the flat union of what the alternatives denote. -/
def FlattensTo (entries : List (String × Descriptor)) (s : JsonSchema) (ds : List Descriptor) :
    Prop :=
  ∃ t ts, List.Forall₂ (Denotes entries) ds (t :: ts) ∧ s.Agrees (unionSchema t ts)

theorem failsFittingly_of_denotes {ss : List JsonSchema}
    (h : List.Forall₂ (Denotes entries) ds ss) : ∀ s ∈ ss, s.FailsFittingly := by
  intro s hs
  obtain ⟨d, -, hd⟩ := exists_of_forall₂_right h s hs
  exact hd.fits

theorem FlattensTo.or {es : List Descriptor} (hs : FlattensTo entries s ds)
    (ht : FlattensTo entries t es) : FlattensTo entries (s.or t) (ds ++ es) := by
  obtain ⟨a, as, has, hsa⟩ := hs
  obtain ⟨b, bs, hbs, htb⟩ := ht
  refine ⟨a, as ++ b :: bs, List.rel_append has hbs, (hsa.or htb).trans ?_⟩
  exact unionSchema_or_agrees (failsFittingly_of_denotes has) (failsFittingly_of_denotes hbs)

theorem FlattensTo.union {parts : List (List Descriptor)}
    (hs : FlattensTo entries s ds) (h : List.Forall₂ (FlattensTo entries) ss parts) :
    FlattensTo entries (unionSchema s ss) (ds ++ parts.flatten) := by
  induction h generalizing s ds with
  | nil => simpa [unionSchema] using hs
  | @cons t part ss parts ht _ ih =>
    rw [List.flatten_cons, ← List.append_assoc]
    exact ih (hs.or ht)

/-- However alternatives are grouped, the schema agrees with their flat union. -/
theorem Groups.flattensTo (h : d.Groups ds) (hs : Denotes entries d s) :
    FlattensTo entries s ds := by
  induction h generalizing s with
  | alternative d => exact ⟨s, [], .cons hs .nil, .refl s⟩
  | @union ds parts length items ih =>
    cases hs with
    | @union _ s ss length' items' =>
      have hdenotes : List.Forall₂ (Denotes entries) ds (s :: ss) :=
        List.forall₂_iff_zip.2 ⟨length', fun hitem ↦ items' _ hitem⟩
      have hflattens : List.Forall₂
          (fun d part ↦ ∀ s, Denotes entries d s → FlattensTo entries s part) ds parts :=
        List.forall₂_iff_zip.2 ⟨length, fun hitem _ hs ↦ ih _ hitem hs⟩
      have hparts : List.Forall₂ (FlattensTo entries) (s :: ss) parts :=
        forall₂_of_left (fun d s part hs hpart ↦ hpart s hs) hdenotes hflattens
      cases hparts with
      | cons hfirst hrest => exact hfirst.union hrest

end Descriptor

/-! ## Catalogs -/

namespace Catalog

open Descriptor

/-- However the alternatives of a union are grouped into unions of unions, the schema of a catalog
does what the flat union does.  If at least two alternatives all fail on a value that is there, the
errors are one summary and then the errors of each alternative, in order, without summaries. -/
theorem grouped_union_agrees {ρ : Type} [Regex.Engine ρ] {source : CatalogSource}
    {catalog : Catalog} {name : String} {s : JsonSchema} {d : Descriptor} {ds : List Descriptor}
    (h : source.compile = .ok catalog) (hd : source.schemas.entries.lookup name = some d)
    (hgroups : d.Groups ds) (hs : catalog.get name = .ok s) :
    ∃ alternatives flat, List.Forall₂ (Denotes source.schemas.entries) ds alternatives ∧
      Denotes source.schemas.entries (.union ds) flat ∧
      (∀ other, source.schemas.entries.lookup other = some (.union ds) →
        catalog.get other = .ok flat) ∧
      s.Agrees flat ∧
      ∀ raw failures, raw ≠ .null → 2 ≤ ds.length →
        List.Forall₂ (fun u failure ↦ u.parse raw = .error failure) alternatives failures →
          s.parse raw = .error ⟨unionSummary flat.describe ::
            failures.flatMap Failure.withoutSummaries, none⟩ ∧
          ∀ entry ∈ failures.flatMap Failure.withoutSummaries, entry.isSummary = false := by
  have hdenotes : Denotes source.schemas.entries d s := by
    cases CatalogSource.denotes_of_get h hs with
    | reference hlookup target =>
      obtain rfl := Option.some.inj (hd.symm.trans hlookup)
      exact target
  obtain ⟨t, ts, halternatives, hagrees⟩ := hgroups.flattensTo hdenotes
  obtain ⟨hlength, hzip⟩ := List.forall₂_iff_zip.1 halternatives
  have hflat : Denotes source.schemas.entries (.union ds) (unionSchema t ts) :=
    .union hlength fun item hitem ↦ hzip hitem
  refine ⟨t :: ts, unionSchema t ts, halternatives, hflat, fun other hother ↦ ?_, hagrees,
    fun raw failures hraw htwo hfailures ↦ ⟨?_, fun entry hentry ↦ ?_⟩⟩
  · exact (CatalogSource.get_eq_ok_iff h).2 (.reference hother hflat)
  · have hparse : s.parse raw = (unionSchema t ts).parse raw := hagrees.parseInput (some raw)
    have hfits := failsFittingly_of_denotes halternatives
    rw [hparse]
    cases hfailures with
    | cons hf hothers =>
      cases hothers with
      | nil => simp [hlength] at htwo
      | cons hg hrest => exact unionSchema_parse_eq_error hraw hfits hf hg hrest
  · obtain ⟨failure, -, hmem⟩ := List.mem_flatMap.1 hentry
    exact Parts.isSummary_eq_false_of_mem hmem

/-! ## Two groupings of three alternatives -/

/-- Numbers, truth values and texts, in one union and in a union of two. -/
def groupingSource : CatalogSource :=
  ⟨"1", ⟨[("flat", .union [.integer false, .boolean false, .string false none]),
    ("nested", .union [.union [.integer false], .union [.boolean false, .string false none]])]⟩⟩

def flatSchema : JsonSchema :=
  unionSchema (integerSchema false) [booleanSchema false, stringSchema false none]

def nestedSchema : JsonSchema :=
  unionSchema (integerSchema false) [unionSchema (booleanSchema false) [stringSchema false none]]

theorem flatSchema_denoted :
    Denotes groupingSource.schemas.entries (.reference "flat") flatSchema := by
  refine .reference rfl
    (@Denotes.union _ _ _ _ _ [booleanSchema false, stringSchema false none] rfl ?_)
  simpa using ⟨Denotes.integer false, Denotes.boolean false, Denotes.string false⟩

theorem nestedSchema_denoted :
    Denotes groupingSource.schemas.entries (.reference "nested") nestedSchema := by
  refine .reference rfl (@Denotes.union _ _ _ _ _
    [unionSchema (booleanSchema false) [stringSchema false none]] rfl ?_)
  have hfirst : Denotes groupingSource.schemas.entries (.union [.integer false])
      (unionSchema (integerSchema false) []) := by
    refine @Denotes.union _ _ _ _ _ [] rfl ?_
    simpa using Denotes.integer false
  have hsecond : Denotes groupingSource.schemas.entries
      (.union [.boolean false, .string false none])
      (unionSchema (booleanSchema false) [stringSchema false none]) := by
    refine @Denotes.union _ _ _ _ _ [stringSchema false none] rfl ?_
    simpa using ⟨Denotes.boolean false, Denotes.string false⟩
  simpa using ⟨hfirst, hsecond⟩

theorem nested_groups :
    Groups (.union [.union [.integer false], .union [.boolean false, .string false none]])
      [.integer false, .boolean false, .string false none] := by
  have hfirst : Groups (.union [.integer false]) [.integer false] := by
    refine @Groups.union _ [[.integer false]] rfl ?_
    simpa using Groups.alternative (.integer false)
  have hsecond : Groups (.union [.boolean false, .string false none])
      [.boolean false, .string false none] := by
    refine @Groups.union _ [[.boolean false], [.string false none]] rfl ?_
    simpa using ⟨Groups.alternative _, Groups.alternative _⟩
  refine @Groups.union _ [[.integer false], [.boolean false, .string false none]] rfl ?_
  simpa using ⟨hfirst, hsecond⟩

theorem groupingSource_isDenoting : groupingSource.IsDenoting := by
  intro name hname
  simp only [groupingSource, SortedMap.keys, List.map, List.mem_cons, List.not_mem_nil, or_false]
    at hname
  obtain rfl | rfl := hname
  · exact ⟨_, flatSchema_denoted⟩
  · exact ⟨_, nestedSchema_denoted⟩

theorem nested_agrees : ∃ catalog, groupingSource.compile = .ok catalog ∧
    catalog.get "nested" = .ok nestedSchema ∧ catalog.get "flat" = .ok flatSchema ∧
      nestedSchema.Agrees flatSchema ∧
      nestedSchema.parse (.array []) = .error
        ⟨[unionSummary "integer | boolean | string",
          ⟨[], .typeMismatch, "expected integer, found array"⟩,
          ⟨[], .typeMismatch, "expected boolean, found array"⟩,
          ⟨[], .typeMismatch, "expected string, found array"⟩], none⟩ := by
  obtain ⟨catalog, h⟩ := CatalogSource.exists_compile_iff_isDenoting.2 groupingSource_isDenoting
  have hnested := (CatalogSource.get_eq_ok_iff h).2 nestedSchema_denoted
  have hflat := (CatalogSource.get_eq_ok_iff h).2 flatSchema_denoted
  obtain ⟨alternatives, flat, halternatives, -, hget, hagrees, hfailure⟩ :=
    grouped_union_agrees h rfl nested_groups hnested
  obtain rfl : flatSchema = flat := Except.ok.inj (hflat.symm.trans (hget "flat" rfl))
  obtain _ | ⟨hinteger, _ | ⟨hboolean, _ | ⟨hstring, _ | _⟩⟩⟩ := halternatives
  cases hinteger
  cases hboolean
  cases hstring
  have hsummed := hfailure (.array []) _ nofun (by decide)
    (.cons rfl (.cons rfl (.cons rfl .nil)))
  exact ⟨catalog, h, hnested, hflat, hagrees, hsummed.1⟩

end Catalog

end TwoWaySchema
