import TwoWaySchema.Proofs.Catalog.Acceptance
import TwoWaySchema.Proofs.Catalog.Scalars

/-!
# Moments of catalogs

A catalog's moments are texts, and milliseconds where they are written.  A text that was read comes
back from its milliseconds exactly if its year has four digits and it is not in a leap second: the
texts of other years begin with a sign, which the reader does not take, and a leap second has no
milliseconds of its own.
-/

namespace TwoWaySchema

namespace Descriptor

variable {t : Timestamp} {raw v : Json}

theorem datetimeSchema_parse_eq_ok_iff : datetimeSchema.parse raw = .ok v ↔
    ∃ t, Leaf.readDatetime (some raw) = .ok t ∧ .string (Rfc3339.text t) = v :=
  map_eq_ok_iff

theorem datetimeSchema_serialize_string {s : String} : datetimeSchema.serialize (.string s) =
    match Rfc3339.ofText? s with
    | .ok t => .ok (Leaf.writeDatetime t)
    | .error _ => .error (.mismatch "datetime") := by
  unfold datetimeSchema
  rw [Schema.map_serialize_eq]
  cases h : Rfc3339.ofText? s with
  | ok t =>
    simp only [Json.toText?, Option.bind_some, h, Except.toOption]
    rfl
  | error fault =>
    simp only [Json.toText?, Option.bind_some, h, Except.toOption]
    rfl

theorem datetimeSchema_validate_string {s : String} : datetimeSchema.validate (.string s) =
    match Rfc3339.ofText? s with
    | .ok t => (Leaf.readDatetime (some (Leaf.writeDatetime t))).isOk
    | .error _ => false := by
  have hcheck : datetimeSchema.validate (.string s) =
      ((Rfc3339.ofText? s).toOption).any (Shape.datetime : Shape Json _).check := rfl
  rw [hcheck]
  cases Rfc3339.ofText? s with
  | ok t => rfl
  | error fault => rfl

/-! ## Round trips -/

section Text

variable (hleap : t.IsLeap → t.seconds % 60 = 59)

include hleap

theorem datetimeSchema_validate_text :
    datetimeSchema.validate (.string (Rfc3339.text t)) = true ↔ t.HasFourDigitYear := by
  rw [datetimeSchema_validate_string]
  by_cases hyear : t.HasFourDigitYear
  · obtain ⟨u, hu⟩ := hyear.exists_ofMillis?
    have hread : Leaf.readDatetime (some (Leaf.writeDatetime t.toMillis)) = .ok u :=
      Leaf.readDatetime_millis.2 (t.millis_toMillis ▸ hu)
    rw [Rfc3339.ofText?_text hyear hleap]
    simp [hread, hyear, Except.isOk, Except.toBool]
  · obtain ⟨fault, hfault⟩ := Rfc3339.ofText?_text_of_year hyear
    simp [hfault, hyear]

theorem datetimeSchema_serialize_text :
    (∃ m, datetimeSchema.serialize (.string (Rfc3339.text t)) = .ok m) ↔ t.HasFourDigitYear := by
  rw [datetimeSchema_serialize_string]
  by_cases hyear : t.HasFourDigitYear
  · rw [Rfc3339.ofText?_text hyear hleap]
    simp [hyear]
  · obtain ⟨fault, hfault⟩ := Rfc3339.ofText?_text_of_year hyear
    simp [hfault, hyear]

/-- The text of a moment comes back from its milliseconds if and only if its year has four digits
and it is not in a leap second. -/
theorem datetimeSchema_restores_text :
    (∃ m, datetimeSchema.serialize (.string (Rfc3339.text t)) = .ok m ∧
        datetimeSchema.parse m = .ok (.string (Rfc3339.text t))) ↔
      t.HasFourDigitYear ∧ ¬ t.IsLeap := by
  constructor
  · rintro ⟨m, hm, hparse⟩
    have hyear : t.HasFourDigitYear := (datetimeSchema_serialize_text hleap).1 ⟨m, hm⟩
    refine ⟨hyear, fun h ↦ ?_⟩
    rw [datetimeSchema_serialize_string, Rfc3339.ofText?_text hyear hleap] at hm
    obtain rfl := Except.ok.inj hm
    obtain ⟨u, hu, htext⟩ := datetimeSchema_parse_eq_ok_iff.1 hparse
    -- What the milliseconds stand for is in no leap second, so its text is another one.
    have hplain : ¬ u.IsLeap := Timestamp.not_isLeap_of_ofMillis? (Leaf.readDatetime_millis.1 hu)
    have htext' : Rfc3339.text u = Rfc3339.text t := Json.string.inj htext
    have hread : Rfc3339.ofText? (Rfc3339.text u) = .ok t.toMillis := by
      rw [htext', Rfc3339.ofText?_text hyear hleap]
    have hyear' : u.HasFourDigitYear := by
      by_contra hyear'
      obtain ⟨fault, hfault⟩ := Rfc3339.ofText?_text_of_year hyear'
      cases hread.symm.trans hfault
    rw [Rfc3339.ofText?_text hyear' fun h ↦ absurd h hplain] at hread
    have heq : u.toMillis = t.toMillis := Except.ok.inj hread
    exact hplain (u.isLeap_toMillis_iff.1 (heq ▸ t.isLeap_toMillis_iff.2 h))
  · rintro ⟨hyear, hplain⟩
    refine ⟨Leaf.writeDatetime t.toMillis, ?_, ?_⟩
    · rw [datetimeSchema_serialize_string, Rfc3339.ofText?_text hyear hleap]
    · have hmillis : Timestamp.ofMillis? t.toMillis.millis = some t.toMillis := by
        rw [t.millis_toMillis]
        exact Timestamp.ofMillis?_millis hplain
      rw [datetimeSchema_parse_eq_ok_iff]
      exact ⟨t.toMillis, Leaf.readDatetime_millis.2 hmillis, by rw [Rfc3339.text_toMillis]⟩

end Text

end Descriptor

namespace Catalog

variable {source : CatalogSource} {catalog : Catalog} {name : String} {s : JsonSchema}

/-- A catalog's schema of moments reads texts of timestamps.  It validates and writes such a text if
and only if the year has four digits, and then restores it unless it is in a leap second. -/
theorem datetime_restores_iff {ρ : Type} [Regex.Engine ρ] (h : source.compile = .ok catalog)
    (hs : catalog.get name = .ok s)
    (hd : source.schemas.entries.lookup name = some .datetime) {raw v : Json}
    (hv : s.parse raw = .ok v) :
    ∃ t, Leaf.readDatetime (some raw) = .ok t ∧ v = .string (Rfc3339.text t) ∧
      (s.validate v = true ↔ t.HasFourDigitYear) ∧
      ((∃ m, s.serialize v = .ok m) ↔ t.HasFourDigitYear) ∧
      ((s.validate v = true ∧ ∃ m, s.serialize v = .ok m ∧ s.parse m = .ok v) ↔
        t.HasFourDigitYear ∧ ¬ t.IsLeap) := by
  have hdatetime : s = Descriptor.datetimeSchema := by
    cases CatalogSource.denotes_of_get h hs with
    | reference hlookup target =>
      obtain rfl := Option.some.inj (hd.symm.trans hlookup)
      exact target.unique .datetime
  subst hdatetime
  obtain ⟨t, ht, rfl⟩ := Descriptor.datetimeSchema_parse_eq_ok_iff.1 hv
  have hleap : t.IsLeap → t.seconds % 60 = 59 := Leaf.readDatetime_leap ht
  have hvalid := Descriptor.datetimeSchema_validate_text hleap
  have hrestores := Descriptor.datetimeSchema_restores_text hleap
  refine ⟨t, ht, rfl, hvalid, Descriptor.datetimeSchema_serialize_text hleap, ?_⟩
  rw [hrestores, hvalid]
  exact ⟨fun h ↦ h.2, fun h ↦ ⟨h.1, h⟩⟩

/-! ## Moments of four and of five digits -/

open Descriptor

def momentSource : CatalogSource :=
  ⟨"1", ⟨[("moment", .datetime)]⟩⟩

def momentCatalog : Catalog :=
  ⟨[("moment", datetimeSchema)]⟩

theorem compile_momentSource : momentSource.compile = .ok momentCatalog := by
  simp only [CatalogSource.compile, momentSource, SortedMap.keys, List.map, compileAll, bind, pure,
    Compile.andThen]
  rw [compileNamed_eq]
  simp [CompilerState.empty, CompilerState.enter, CompilerState.leave, CompilerState.remember,
    compileUnder, compile, pure, momentCatalog]

theorem moment_parse : datetimeSchema.parse (.number (.whole 1500 (by decide))) =
    .ok (.string "1970-01-01T00:00:01.500Z") := rfl

/-- The first moment of the year 10000 gives a text that is neither valid nor written. -/
theorem moment_of_year_10000 :
    momentSource.compile = .ok momentCatalog ∧ momentCatalog.get "moment" = .ok datetimeSchema ∧
      momentSource.schemas.entries.lookup "moment" = some .datetime ∧
      datetimeSchema.parse (.number (.whole 253402300800000 (by decide))) =
        .ok (.string "+10000-01-01T00:00:00.000Z") ∧
      datetimeSchema.validate (.string "+10000-01-01T00:00:00.000Z") = false ∧
      datetimeSchema.serialize (.string "+10000-01-01T00:00:00.000Z") =
        .error (.mismatch "datetime") :=
  ⟨compile_momentSource, rfl, rfl, rfl, rfl, rfl⟩

theorem moment_restores_iff :
    momentSource.compile = .ok momentCatalog ∧ momentCatalog.get "moment" = .ok datetimeSchema ∧
      momentSource.schemas.entries.lookup "moment" = some .datetime ∧
      datetimeSchema.parse (.number (.whole 1500 (by decide))) =
        .ok (.string "1970-01-01T00:00:01.500Z") ∧
      ∃ t, Leaf.readDatetime (some (.number (.whole 1500 (by decide)))) = .ok t ∧
        .string "1970-01-01T00:00:01.500Z" = Json.string (Rfc3339.text t) ∧
        (datetimeSchema.validate (.string "1970-01-01T00:00:01.500Z") = true ↔
          t.HasFourDigitYear) ∧
        ((∃ m, datetimeSchema.serialize (.string "1970-01-01T00:00:01.500Z") = .ok m) ↔
          t.HasFourDigitYear) ∧
        ((datetimeSchema.validate (.string "1970-01-01T00:00:01.500Z") = true ∧
            ∃ m, datetimeSchema.serialize (.string "1970-01-01T00:00:01.500Z") = .ok m ∧
              datetimeSchema.parse m = .ok (.string "1970-01-01T00:00:01.500Z")) ↔
          t.HasFourDigitYear ∧ ¬ t.IsLeap) := by
  have hget : momentCatalog.get "moment" = .ok datetimeSchema := rfl
  have hlookup : momentSource.schemas.entries.lookup "moment" = some .datetime := rfl
  refine ⟨compile_momentSource, hget, hlookup, moment_parse, ?_⟩
  exact datetime_restores_iff compile_momentSource hget hlookup moment_parse

-- A leap second is written as the second after it.
example :
    datetimeSchema.parse (.string "2016-12-31T23:59:60Z") =
        .ok (.string "2016-12-31T23:59:60.000Z") ∧
      datetimeSchema.serialize (.string "2016-12-31T23:59:60.000Z") =
        .ok (.number (.whole 1483228800000 (by decide))) ∧
      datetimeSchema.parse (.number (.whole 1483228800000 (by decide))) =
        .ok (.string "2017-01-01T00:00:00.000Z") :=
  ⟨rfl, rfl, rfl⟩

end Catalog

end TwoWaySchema
