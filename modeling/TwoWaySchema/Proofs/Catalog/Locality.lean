import TwoWaySchema.Proofs.Catalog.Reparsing
import TwoWaySchema.Proofs.Json.Path

/-!
# Locality of errors

What is wrong in one place of a value has no effect on what is reported elsewhere.  Two values that
differ in one place only have the same errors at all paths that lead neither to that place, nor into
it, nor to a container around it.  Unions are left out: which of its alternatives accepts a value
can depend on any place inside.
-/

namespace TwoWaySchema

/-! ## Errors apart from a path -/

namespace Outcome

variable {α β : Type} {outcome : Outcome α} {path : Path}

/-- The errors whose paths are apart from a path. -/
def errorsApart (path : Path) (outcome : Outcome α) : List ErrorEntry :=
  outcome.errors.filter fun entry ↦ entry.path.IsApart path

theorem errorsApart_nil : outcome.errorsApart [] = [] :=
  List.filter_eq_nil_iff.2 fun entry _ ↦ by simp [Path.not_isApart_nil]

/-- An error about the value itself is apart from no path. -/
theorem FailsWhole.errorsApart_eq_nil (h : outcome.FailsWhole) : outcome.errorsApart path = [] := by
  cases outcome with
  | ok a => rfl
  | error failure =>
    obtain ⟨kind, message, rfl⟩ := h failure rfl
    simp [errorsApart, errors, Failure.single, Path.not_nil_isApart]

theorem FailsWhole.errorsApart_eq {other : Outcome α} (h : outcome.FailsWhole)
    (hother : other.FailsWhole) : outcome.errorsApart path = other.errorsApart path :=
  h.errorsApart_eq_nil.trans hother.errorsApart_eq_nil.symm

theorem errorsApart_map {f : α → β} :
    Outcome.errorsApart path (outcome.map f) = outcome.errorsApart path := by
  rw [errorsApart, errors_map, errorsApart]

theorem errorsApart_within {segment : PathSegment} :
    (outcome.within segment).errorsApart (segment :: path) =
      (outcome.errorsApart path).map (ErrorEntry.within segment) := by
  rw [errorsApart, errors_within, List.filter_map, errorsApart]
  congr 2
  funext entry
  simp [ErrorEntry.within, Path.cons_isApart_cons_iff]

theorem errorsApart_collect {outcomes : List (Outcome α)} :
    (collect outcomes).errorsApart path = outcomes.flatMap (errorsApart path) := by
  rw [errorsApart, errors_collect, List.filter_flatMap]
  rfl

end Outcome

namespace Parts

variable {α σ : Type} {read : Json → Outcome α} {x y : Json} {path : Path}

theorem flatMap_errorsApart_outcomesFrom (before after : List Json)
    (h : (read x).errorsApart path = (read y).errorsApart path) (i : Nat) :
    (outcomesFrom read i (before ++ x :: after)).flatMap
        (Outcome.errorsApart (.index (i + before.length) :: path)) =
      (outcomesFrom read i (before ++ y :: after)).flatMap
        (Outcome.errorsApart (.index (i + before.length) :: path)) := by
  induction before generalizing i with
  | nil =>
    rw [List.nil_append, List.nil_append, outcomesFrom, outcomesFrom, List.flatMap_cons,
      List.flatMap_cons, List.length_nil, Nat.add_zero, Outcome.errorsApart_within,
      Outcome.errorsApart_within, h]
  | cons z rest ih =>
    have hnext := ih (i + 1)
    rw [Nat.add_right_comm, Nat.add_assoc] at hnext
    rw [List.cons_append, List.cons_append, outcomesFrom, outcomesFrom, List.flatMap_cons,
      List.flatMap_cons, List.length_cons, hnext]

theorem readElements_errorsApart {before after : List Json}
    (h : (read x).errorsApart path = (read y).errorsApart path) :
    (readElements read (before ++ x :: after)).errorsApart (.index before.length :: path) =
      (readElements read (before ++ y :: after)).errorsApart (.index before.length :: path) := by
  have houtcomes := flatMap_errorsApart_outcomesFrom before after h 0
  rw [Nat.zero_add] at houtcomes
  unfold readElements
  rw [Outcome.errorsApart_collect, Outcome.errorsApart_collect, houtcomes]

theorem readMembers_errorsApart {before after : List (String × Json)} {name : String}
    (h : (read x).errorsApart path = (read y).errorsApart path) :
    (readMembers read (before ++ (name, x) :: after)).errorsApart (.key name :: path) =
      (readMembers read (before ++ (name, y) :: after)).errorsApart (.key name :: path) := by
  have hmember : (readMember read (name, x)).errorsApart (.key name :: path) =
      (readMember read (name, y)).errorsApart (.key name :: path) := by
    simp only [readMember, Outcome.errorsApart_within, Outcome.errorsApart_map, h]
  unfold readMembers
  simp only [Outcome.errorsApart_map, Outcome.errorsApart_collect, List.map_append, List.map_cons,
    List.flatMap_append, List.flatMap_cons, hmember]

end Parts

/-! ## Local schemas -/

/-- Two values that differ in one place only have the same errors elsewhere. -/
def Schema.IsLocal {σ α : Type} (s : Schema σ α) : Prop :=
  ∀ path r r', Json.EqualBut path r r' →
    (s.parse r).errorsApart path = (s.parse r').errorsApart path

namespace Schema.IsLocal

variable {σ α β : Type} {s : Schema σ α}

theorem of_failsWhole (h : ∀ x, (s.parse x).FailsWhole) : s.IsLocal :=
  fun _ r r' _ ↦ (h r).errorsApart_eq (h r')

/-- A schema that has the errors of another one, except perhaps on null. -/
theorem of_errors_eq {t : Schema σ β} (hs : s.IsLocal)
    (h : ∀ x, x ≠ .null → (t.parse x).errors = (s.parse x).errors) : t.IsLocal := by
  intro path r r' hr
  cases path with
  | nil => rw [Outcome.errorsApart_nil, Outcome.errorsApart_nil]
  | cons segment path =>
    -- A path into a value leads into an array or an object, so neither value is null.
    have hne : r ≠ .null := by cases hr <;> nofun
    have hne' : r' ≠ .null := by cases hr <;> nofun
    unfold Outcome.errorsApart
    rw [h r hne, h r' hne']
    exact hs (segment :: path) r r' hr

theorem map (h : s.IsLocal) (forward : α → β) (backward : β → Option α) :
    (s.map forward backward).IsLocal :=
  h.of_errors_eq fun _ _ ↦ Outcome.errors_map

/-! ### Containers -/

theorem array (h : s.IsLocal) : s.array.IsLocal := by
  intro path r r' hr
  cases hr with
  | root => rw [Outcome.errorsApart_nil, Outcome.errorsApart_nil]
  | item hx => exact Parts.readElements_errorsApart (h _ _ _ hx)
  | member => exact Outcome.FailsWhole.errorsApart_eq .single .single

theorem distinct [equality : BEq α] (h : s.IsLocal) : s.distinct.IsLocal := by
  refine h.array.of_errors_eq fun x _ ↦ ?_
  have hparse : s.distinct.parse x = (s.array.parse x).map Parts.dropRepeated :=
    Shape.parse_distinct
  rw [hparse, Outcome.errors_map]

theorem indexed (h : s.IsLocal) : s.indexed.IsLocal := by
  intro path r r' hr
  cases hr with
  | root => rw [Outcome.errorsApart_nil, Outcome.errorsApart_nil]
  | item => exact Outcome.FailsWhole.errorsApart_eq .single .single
  | member hx => exact Parts.readMembers_errorsApart (h _ _ _ hx)

end Schema.IsLocal

namespace Descriptor

variable {s : JsonSchema} {ss : List JsonSchema} {fields : List (String × JsonSchema)}
  {denyUnknown : Bool} {path : Path} {x y : Json}

theorem flatMap_errorsApart_parseFrom (before after : List Json)
    (h : ∀ s ∈ ss, (s.parse x).errorsApart path = (s.parse y).errorsApart path) (i : Nat) :
    ((JsonShapes.ofList (ss.map Schema.shape)).parseFrom i (before ++ x :: after)).flatMap
        (Outcome.errorsApart (.index (i + before.length) :: path)) =
      ((JsonShapes.ofList (ss.map Schema.shape)).parseFrom i (before ++ y :: after)).flatMap
        (Outcome.errorsApart (.index (i + before.length) :: path)) := by
  induction ss generalizing before i with
  | nil => rfl
  | cons s rest ih =>
    cases before with
    | nil =>
      have hs : (s.shape.parse (some x)).errorsApart path =
          (s.shape.parse (some y)).errorsApart path := h s List.mem_cons_self
      simp only [List.nil_append, List.map_cons, JsonShapes.ofList, JsonShapes.parseFrom,
        List.flatMap_cons, List.length_nil, Nat.add_zero, Outcome.errorsApart_within, hs]
    | cons z before =>
      have hnext := ih before (List.forall_mem_cons.1 h).2 (i + 1)
      rw [Nat.add_right_comm, Nat.add_assoc] at hnext
      simp only [List.cons_append, List.map_cons, JsonShapes.ofList, JsonShapes.parseFrom,
        List.flatMap_cons, List.length_cons, hnext]

theorem sequence_isLocal (h : ∀ s ∈ ss, s.IsLocal) : (Schema.sequence ss).IsLocal := by
  intro path r r' hr
  cases hr with
  | root => rw [Outcome.errorsApart_nil, Outcome.errorsApart_nil]
  | @item before after path x y hx =>
    have hparse : ∀ items, (Schema.sequence ss).parse (.array items) = _ := fun _ ↦
      sequence_parseInput
    rw [hparse, hparse]
    by_cases hlength : (before ++ x :: after).length =
        (JsonShapes.ofList (ss.map Schema.shape)).size
    · have hlength' : (before ++ y :: after).length =
          (JsonShapes.ofList (ss.map Schema.shape)).size := by simpa using hlength
      have hitems := flatMap_errorsApart_parseFrom before after
        (fun s hs ↦ h s hs path x y hx) 0
      rw [Nat.zero_add] at hitems
      rw [Parts.requireLength_eq_ok_iff.2 ⟨rfl, hlength⟩,
        Parts.requireLength_eq_ok_iff.2 ⟨rfl, hlength'⟩]
      change Outcome.errorsApart _ (Except.map _ _) = Outcome.errorsApart _ (Except.map _ _)
      rw [Outcome.errorsApart_map, Outcome.errorsApart_map, Outcome.errorsApart_collect,
        Outcome.errorsApart_collect, hitems]
    · have hlength' : (before ++ y :: after).length ≠
          (JsonShapes.ofList (ss.map Schema.shape)).size := by simpa using hlength
      rw [Parts.requireLength_of_length_ne hlength, Parts.requireLength_of_length_ne hlength']
      exact Outcome.FailsWhole.errorsApart_eq .single .single
  | member => exact Outcome.FailsWhole.errorsApart_eq .single .single

theorem flatMap_errorsApart_readFields {before after : List (String × Json)} {name : String}
    (h : ∀ field ∈ fields, field.2.IsLocal) (hxy : Json.EqualBut path x y) :
    (readFields fields (before ++ (name, x) :: after)).flatMap
        (fun slot ↦ slot.2.errorsApart (.key name :: path)) =
      (readFields fields (before ++ (name, y) :: after)).flatMap
        (fun slot ↦ slot.2.errorsApart (.key name :: path)) := by
  unfold readFields
  rw [List.flatMap_map, List.flatMap_map]
  apply List.flatMap_congr
  intro field hfield
  rcases Json.lookup_eq_or_of_member before after name field.1 x y with hlookup | ⟨rfl, hx, hy⟩
  · rw [hlookup]
  · rw [hx, hy, Outcome.errorsApart_within, Outcome.errorsApart_within]
    exact congrArg _ (h field hfield path x y hxy)

theorem recordSchema_isLocal (h : ∀ field ∈ fields, field.2.IsLocal) :
    (recordSchema fields denyUnknown).IsLocal := by
  intro path r r' hr
  cases hr with
  | root => rw [Outcome.errorsApart_nil, Outcome.errorsApart_nil]
  | item => exact Outcome.FailsWhole.errorsApart_eq .single .single
  | @member before after name path x y hxy =>
    have hparse : ∀ members, ((recordSchema fields denyUnknown).parse (.object members)).errors =
        (readFields fields members).flatMap (fun slot ↦ slot.2.errors) ++
          if denyUnknown then Parts.unknownFields (fields.map Prod.fst) members else [] := by
      intro members
      have hread : (recordSchema fields denyUnknown).parse (.object members) = _ :=
        recordSchema_parseInput
      rw [hread, Outcome.errors_map]
      exact Parts.errors_collectRecord
    have hunknown : Parts.unknownFields (fields.map Prod.fst) (before ++ (name, x) :: after) =
        Parts.unknownFields (fields.map Prod.fst) (before ++ (name, y) :: after) := by
      simp [Parts.unknownFields]
    unfold Outcome.errorsApart
    rw [hparse, hparse, List.filter_append, List.filter_append, List.filter_flatMap,
      List.filter_flatMap, hunknown]
    exact congrArg (· ++ _) (flatMap_errorsApart_readFields h hxy)

theorem optionalSchema_isLocal (h : s.IsLocal) (hfits : ∀ input, (s.parseInput input).Fits input) :
    (optionalSchema s).IsLocal := by
  refine h.of_errors_eq fun x hx ↦ ?_
  cases hs : s.parse x with
  | ok a => exact congrArg Outcome.errors (optionalSchema_parseInput_of_ok hs)
  | error failure =>
    have hpresent : ¬ IsVacant (some x) := not_isVacant_some.2 hx
    have hmissing := mt (hfits (some x) failure hs).isMissing_iff.1 hpresent
    have hoptional : (optionalSchema s).parse x = _ := optionalSchema_parseInput_of_error hs
    rw [hoptional, if_neg hmissing]

theorem nullableSchema_isLocal (h : s.IsLocal) : (nullableSchema s).IsLocal := by
  refine h.of_errors_eq fun x hx ↦ ?_
  have hne : some x ≠ some Json.null := fun heq ↦ hx (Option.some.inj heq)
  exact congrArg Outcome.errors (nullableSchema_parseInput_of_ne hne)

/-- What takes a default for every failure has no errors at all. -/
theorem orDefault_isLocal {value : Json} : (s.orDefault value).IsLocal := by
  apply Schema.IsLocal.of_failsWhole
  intro x failure hfailure
  change (Shape.orDefault s.shape value).parse (some x) = .error failure at hfailure
  rw [Shape.parse] at hfailure
  split at hfailure <;> cases hfailure

/-! ## Denotations -/

/-- The schema of a descriptor without unions is local. -/
theorem Denotes.isLocal {ρ : Type} [Regex.Engine ρ] {entries : List (String × Descriptor)}
    {d : Descriptor} (hs : Denotes entries d s)
    (h : Throughout entries (fun d ↦ ∀ ds, d ≠ .union ds) d) : s.IsLocal := by
  induction hs with
  | string | pattern => exact .of_failsWhole fun _ ↦ stringSchema_failsWhole
  | number => exact .of_failsWhole fun _ ↦ numberSchema_failsWhole
  | integer => exact .of_failsWhole fun _ ↦ integerSchema_failsWhole
  | boolean => exact .of_failsWhole fun _ ↦ booleanSchema_failsWhole
  | datetime => exact .of_failsWhole fun _ ↦ datetimeSchema_failsWhole
  | @array d t _ ih => exact (ih (h.child (List.mem_singleton_self d))).array.map _ _
  | @set d t _ ih => exact (ih (h.child (List.mem_singleton_self d))).distinct.map _ _
  | @indexed d t _ ih => exact (ih (h.child (List.mem_singleton_self d))).indexed.map _ _
  | @tuple ds t ts length _ ih =>
    refine sequence_isLocal (forall_mem_of_forall_mem_zip length fun item hitem ↦ ?_)
    exact ih item hitem (h.child (List.of_mem_zip hitem).1)
  | @object fields denyUnknown ts t length _ hobject ih =>
    obtain ⟨-, rfl⟩ := objectSchema_eq_ok_iff.1 hobject
    refine recordSchema_isLocal (forall_mem_zip_fst (p := Schema.IsLocal) length ?_)
    intro item hitem
    exact ih item hitem (h.child (List.of_mem_zip hitem).1)
  | @optional d t hinner ih =>
    exact optionalSchema_isLocal (ih (h.child (List.mem_singleton_self d))) hinner.fits
  | @nullable d t _ ih =>
    exact nullableSchema_isLocal (ih (h.child (List.mem_singleton_self d)))
  | orDefault => exact orDefault_isLocal
  | union => exact absurd rfl (h.self _)
  | reference hlookup _ ih => exact ih (h.step (.inr ⟨_, rfl, hlookup⟩))

end Descriptor

/-! ## Catalogs -/

namespace Catalog

open Descriptor

/-- A schema of a catalog that contains no union has, for two values that differ in one place only,
the same errors in the same order at all paths that are apart from that place. -/
theorem errors_eq_apart {ρ : Type} [Regex.Engine ρ] {source : CatalogSource} {catalog : Catalog}
    {name : String} {s : JsonSchema} (h : source.compile = .ok catalog)
    (hs : catalog.get name = .ok s)
    (hunion : Throughout source.schemas.entries (fun d ↦ ∀ ds, d ≠ .union ds) (.reference name))
    {path : Path} {r r' : Json} (hr : Json.EqualBut path r r') :
    ((s.parse r).errors.filter fun entry ↦ entry.path.IsApart path) =
      (s.parse r').errors.filter fun entry ↦ entry.path.IsApart path :=
  (CatalogSource.denotes_of_get h hs).isLocal hunion path r r' hr

theorem label_without_unions :
    Throughout noteSource.schemas.entries (fun d ↦ ∀ ds, d ≠ .union ds) (.reference "label") := by
  refine label_throughout.imp fun d hd ds hunion ↦ ?_
  rw [hunion] at hd
  exact hd

/-- A label with a member that it does not declare, a text and a time that is not one. -/
def brokenLabel (text : Json) : Json :=
  .object [("color", .string "red"), ("text", text), ("time", .bool true)]

/-- The text of a label has no effect on the errors about its other members. -/
theorem brokenLabel_errors_eq_apart : ∃ catalog, noteSource.compile = .ok catalog ∧
    catalog.get "label" = .ok labelSchema ∧
      Throughout noteSource.schemas.entries (fun d ↦ ∀ ds, d ≠ .union ds) (.reference "label") ∧
      Json.EqualBut [.key "text"] (brokenLabel (.string "attic")) (brokenLabel (.bool true)) ∧
      (labelSchema.parse (brokenLabel (.bool true))).errors.map ErrorEntry.path =
        [[.key "text"], [.key "time"], [.key "color"]] ∧
      ((labelSchema.parse (brokenLabel (.string "attic"))).errors.filter
          fun entry ↦ entry.path.IsApart [.key "text"]) =
        (labelSchema.parse (brokenLabel (.bool true))).errors.filter
          fun entry ↦ entry.path.IsApart [.key "text"] := by
  obtain ⟨catalog, h, hlabel, -⟩ := exists_noteCatalog
  have htexts : Json.EqualBut [.key "text"] (brokenLabel (.string "attic"))
      (brokenLabel (.bool true)) :=
    @Json.EqualBut.member [("color", .string "red")] [("time", .bool true)] "text" []
      (.string "attic") (.bool true) (.root _ _)
  exact ⟨catalog, h, hlabel, label_without_unions, htexts, rfl,
    errors_eq_apart h hlabel label_without_unions htexts⟩

end Catalog

end TwoWaySchema
