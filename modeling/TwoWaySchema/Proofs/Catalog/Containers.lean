import TwoWaySchema.Proofs.Catalog.ObjectFields
import TwoWaySchema.Proofs.Catalog.Scalars
import TwoWaySchema.Proofs.Json
import TwoWaySchema.Proofs.Shape.Reading
import TwoWaySchema.Proofs.Writer

/-!
# Containers of catalogs

What arrays, sets, tuples, indexed objects and objects read and write, in terms of what the schemas
of their parts do.  Sequences are matched part by part, objects by the names of their fields.
-/

namespace TwoWaySchema

theorem Schema.map_serialize_eq_ok_iff {σ α β : Type} {s : Schema σ α} {forward : α → β}
    {backward : β → Option α} {b : β} {x : Json} :
    (s.map forward backward).serialize b = .ok x ↔
      ∃ a, backward b = some a ∧ s.serialize a = .ok x := by
  rw [Schema.map_serialize_eq]
  cases backward b <;> simp

namespace Descriptor

variable {s : JsonSchema} {ss : List JsonSchema} {fields : List (String × JsonSchema)}
  {denyUnknown : Bool} {input : Option Json} {v w : Json}

theorem toItems?_eq_some_iff {values : List Json} :
    v.toItems? = some values ↔ v = .array values := by
  cases v <;> simp [Json.toItems?]

theorem toMembers?_eq_some_iff {members : List (String × Json)} :
    v.toMembers? = some members ↔ v = .object members := by
  cases v <;> simp [Json.toMembers?]

/-! ## Arrays and sets -/

theorem arraySchema_parseInput :
    (arraySchema s).parseInput input = (s.array.parseInput input).map .array := rfl

theorem setSchema_parseInput :
    (setSchema s).parseInput input = (s.distinct.parseInput input).map .array := rfl

theorem arraySchema_fits : ((arraySchema s).parseInput input).Fits input :=
  Shape.parse_array_fits.map _

theorem setSchema_fits : ((setSchema s).parseInput input).Fits input :=
  Shape.parse_distinct_fits.map _

theorem arraySchema_parseInput_eq_ok_iff (h : ∀ x, (s.parse x).IsExplained) :
    (arraySchema s).parseInput input = .ok v ↔
      ∃ items values, input = some (.array items) ∧
        List.Forall₂ (fun x a ↦ s.parse x = .ok a) items values ∧ v = .array values := by
  have harray : ∀ values, s.array.parseInput input = .ok values ↔
      ∃ items, input = some (.array items) ∧
        List.Forall₂ (fun x a ↦ s.parse x = .ok a) items values := fun _ ↦
    Shape.parse_array_eq_ok_iff h
  rw [arraySchema_parseInput, map_eq_ok_iff]
  simp only [harray]
  grind

theorem setSchema_parseInput_eq_ok_iff (h : ∀ x, (s.parse x).IsExplained) :
    (setSchema s).parseInput input = .ok v ↔
      ∃ items values, input = some (.array items) ∧
        List.Forall₂ (fun x a ↦ s.parse x = .ok a) items values ∧
          v = .array (Parts.dropRepeated values) := by
  have hdistinct : ∀ kept, s.distinct.parseInput input = .ok kept ↔
      ∃ items values, input = some (.array items) ∧
        List.Forall₂ (fun x a ↦ s.parse x = .ok a) items values ∧
          kept = Parts.dropRepeated values :=
    fun _ ↦ Shape.parse_distinct_eq_ok_iff h
  rw [setSchema_parseInput, map_eq_ok_iff]
  simp only [hdistinct]
  grind

/-- Any schema of lists that writes their elements one by one writes arrays of what is written. -/
theorem map_array_serialize_eq_ok_iff {t : Schema Json (List Json)}
    (h : ∀ values, t.serialize values = s.shape.writer.elements values) :
    (t.map .array Json.toItems?).serialize v = .ok w ↔
      ∃ values xs, v = .array values ∧
        List.Forall₂ (fun a x ↦ s.serialize a = .ok x) values xs ∧ w = .array xs := by
  have helements : ∀ values, s.shape.writer.elements values = .ok w ↔
      ∃ xs, List.Forall₂ (fun a x ↦ s.serialize a = .ok x) values xs ∧ w = .array xs := by
    intro values
    rw [Writer.elements, map_eq_ok_iff]
    simp only [Writer.elementsFrom_eq_ok_iff, eq_comm (a := w)]
    rfl
  rw [Schema.map_serialize_eq_ok_iff]
  simp only [toItems?_eq_some_iff, h, helements, exists_and_left]

theorem arraySchema_serialize_eq_ok_iff :
    (arraySchema s).serialize v = .ok w ↔
      ∃ values xs, v = .array values ∧
        List.Forall₂ (fun a x ↦ s.serialize a = .ok x) values xs ∧ w = .array xs :=
  map_array_serialize_eq_ok_iff fun _ ↦ rfl

theorem setSchema_serialize_eq_ok_iff :
    (setSchema s).serialize v = .ok w ↔
      ∃ values xs, v = .array values ∧
        List.Forall₂ (fun a x ↦ s.serialize a = .ok x) values xs ∧ w = .array xs :=
  map_array_serialize_eq_ok_iff fun _ ↦ rfl

/-! ## Tuples -/

theorem forall₂_parseFrom_iff {items values : List Json} {i : Nat} :
    List.Forall₂ (fun outcome a ↦ outcome = .ok a)
        ((JsonShapes.ofList (ss.map Schema.shape)).parseFrom i items) values ↔
      List.Forall₂ (fun part a ↦ part.1.parse part.2 = .ok a) (ss.zip items) values := by
  induction ss generalizing i items values with
  | nil => simp [JsonShapes.ofList, JsonShapes.parseFrom]
  | cons s rest ih =>
    cases items with
    | nil => simp [JsonShapes.ofList, JsonShapes.parseFrom]
    | cons x items =>
      rw [List.map_cons, JsonShapes.ofList, JsonShapes.parseFrom, List.zip_cons_cons,
        List.forall₂_cons_left_iff, List.forall₂_cons_left_iff]
      simp only [Outcome.within_eq_ok_iff, ih]
      rfl

theorem sequence_parseInput :
    (Schema.sequence ss).parseInput input =
      Parts.requireLength (JsonShapes.ofList (ss.map Schema.shape)).size input >>= fun items ↦
        (Outcome.collect ((JsonShapes.ofList (ss.map Schema.shape)).parseFrom 0 items)).map
          .array := rfl

/-- Every outcome of a position is that of its schema, seen from outside. -/
theorem exists_of_mem_parseFrom {items : List Json} {i : Nat} {outcome : Outcome Json}
    (h : outcome ∈ (JsonShapes.ofList (ss.map Schema.shape)).parseFrom i items) :
    ∃ s ∈ ss, ∃ x j, outcome = (s.parse x).within (.index j) := by
  induction ss generalizing i items with
  | nil => cases h
  | cons s rest ih =>
    cases items with
    | nil => cases h
    | cons x items =>
      rcases List.mem_cons.1 h with rfl | hrest
      · exact ⟨s, List.mem_cons_self, x, i, rfl⟩
      · obtain ⟨t, ht, y, j, hy⟩ := ih hrest
        exact ⟨t, List.mem_cons_of_mem s ht, y, j, hy⟩

theorem sequence_fits : ((Schema.sequence ss).parseInput input).Fits input := by
  rw [sequence_parseInput]
  refine .bind Parts.requireLength_fits fun items hitems ↦ ?_
  have hpresent : ¬ IsVacant input := by
    simp [(Parts.requireLength_eq_ok_iff.1 hitems).1, IsVacant]
  refine .map (.collect hpresent fun outcome houtcome entry hentry ↦ ?_) _
  obtain ⟨s, -, x, j, rfl⟩ := exists_of_mem_parseFrom houtcome
  exact Outcome.path_ne_nil_of_mem_errors_within hentry

theorem sequence_parseInput_eq_ok_iff (h : ∀ s ∈ ss, ∀ x, (s.parse x).IsExplained) :
    (Schema.sequence ss).parseInput input = .ok v ↔
      ∃ items values, input = some (.array items) ∧ items.length = ss.length ∧
        List.Forall₂ (fun part a ↦ part.1.parse part.2 = .ok a) (ss.zip items) values ∧
          v = .array values := by
  have hcollect : ∀ items values,
      Outcome.collect ((JsonShapes.ofList (ss.map Schema.shape)).parseFrom 0 items) = .ok values ↔
        List.Forall₂ (fun part a ↦ part.1.parse part.2 = .ok a) (ss.zip items) values := by
    intro items values
    refine (Outcome.collect_eq_ok_iff fun outcome houtcome ↦ ?_).trans forall₂_parseFrom_iff
    obtain ⟨s, hs, x, j, rfl⟩ := exists_of_mem_parseFrom houtcome
    exact (h s hs x).within _
  rw [sequence_parseInput, JsonShapes.size_ofList, List.length_map]
  simp only [bind_eq_ok_iff, map_eq_ok_iff, Parts.requireLength_eq_ok_iff, hcollect]
  grind

theorem serializeFrom_eq_ok_iff {values xs : List Json} {i : Nat} :
    (JsonShapes.ofList (ss.map Schema.shape)).serializeFrom i values = .ok xs ↔
      List.Forall₂ (fun part x ↦ part.1.serialize part.2 = .ok x) (ss.zip values) xs := by
  induction ss generalizing i values xs with
  | nil => simp [JsonShapes.ofList, JsonShapes.serializeFrom, eq_comm]
  | cons s rest ih =>
    cases values with
    | nil => simp [JsonShapes.ofList, JsonShapes.serializeFrom, eq_comm]
    | cons a values =>
      have hs : s.shape.writer.serialize a = s.serialize a := rfl
      rw [List.map_cons, JsonShapes.ofList, JsonShapes.serializeFrom, bind_bind_eq_ok_iff,
        List.zip_cons_cons, List.forall₂_cons_left_iff, hs]
      simp only [mapError_eq_ok_iff, ih]
      grind

theorem sequence_serialize_eq_ok_iff :
    (Schema.sequence ss).serialize v = .ok w ↔
      ∃ values xs, v = .array values ∧ values.length = ss.length ∧
        List.Forall₂ (fun part x ↦ part.1.serialize part.2 = .ok x) (ss.zip values) xs ∧
          w = .array xs := by
  have hsize : (JsonShapes.ofList (ss.map Schema.shape)).size = ss.length := by
    rw [JsonShapes.size_ofList, List.length_map]
  cases v with
  | array values =>
    change (if values.length = (JsonShapes.ofList (ss.map Schema.shape)).size then
      ((JsonShapes.ofList (ss.map Schema.shape)).serializeFrom 0 values).map Json.array
      else .error _) = .ok w ↔ _
    rw [hsize]
    split
    next hlength =>
      rw [map_eq_ok_iff]
      simp only [serializeFrom_eq_ok_iff]
      grind
    next hlength => simp [hlength]
  | _ =>
    constructor
    · intro h
      cases h
    · rintro ⟨values, xs, hv, -⟩
      cases hv

/-! ## Indexed objects -/

theorem indexedSchema_parseInput :
    (indexedSchema s).parseInput input =
      (s.indexed.parseInput input).map fun entries ↦ .ofMembers entries.entries := rfl

theorem indexedSchema_fits : ((indexedSchema s).parseInput input).Fits input :=
  Shape.parse_indexed_fits.map _

theorem ofMembers_ofList {entries : List (String × Json)} :
    Json.ofMembers (SortedMap.ofList entries).entries = .ofMembers entries :=
  congrArg Json.object SortedMap.ofList_entries_ofList

theorem indexedSchema_parseInput_eq_ok_iff (h : ∀ x, (s.parse x).IsExplained) :
    (indexedSchema s).parseInput input = .ok v ↔
      ∃ members entries, input = some (.object members) ∧
        List.Forall₂ (fun member entry ↦ entry.1 = member.1 ∧ s.parse member.2 = .ok entry.2)
          members entries ∧ v = .ofMembers entries := by
  have hindexed : ∀ map, s.indexed.parseInput input = .ok map ↔
      ∃ members entries, input = some (.object members) ∧
        List.Forall₂ (fun member entry ↦ entry.1 = member.1 ∧ s.parse member.2 = .ok entry.2)
          members entries ∧ .ofList entries = map := fun _ ↦
    Shape.parse_indexed_eq_ok_iff h
  rw [indexedSchema_parseInput, map_eq_ok_iff]
  simp only [hindexed]
  constructor
  · rintro ⟨_, ⟨members, entries, hinput, hentries, rfl⟩, rfl⟩
    exact ⟨members, entries, hinput, hentries, ofMembers_ofList⟩
  · rintro ⟨members, entries, hinput, hentries, rfl⟩
    exact ⟨_, ⟨members, entries, hinput, hentries, rfl⟩, ofMembers_ofList⟩

theorem indexedSchema_serialize_eq_ok_iff :
    (indexedSchema s).serialize v = .ok w ↔
      ∃ members written, v = .object members ∧
        List.Forall₂ (fun entry member ↦ member.1 = entry.1 ∧ s.serialize entry.2 = .ok member.2)
          (SortedMap.ofList members).entries written ∧ w = .ofMembers written := by
  rw [indexedSchema, Schema.map_serialize_eq_ok_iff]
  simp only [Option.map_eq_some_iff, toMembers?_eq_some_iff]
  constructor
  · rintro ⟨_, ⟨members, rfl, rfl⟩, hwrite⟩
    obtain ⟨written, hwritten, rfl⟩ := map_eq_ok_iff.1 hwrite
    exact ⟨members, written, rfl, Writer.membersOf_eq_ok_iff.1 hwritten, rfl⟩
  · rintro ⟨members, written, rfl, hwritten, rfl⟩
    refine ⟨_, ⟨members, rfl, rfl⟩, map_eq_ok_iff.2 ⟨written, ?_, rfl⟩⟩
    exact Writer.membersOf_eq_ok_iff.2 hwritten

/-- Members with the names of a map's entries are in the order of its object. -/
theorem ofMembers_written {entries written : List (String × Json)}
    (h : List.Forall₂ (fun entry member ↦ member.1 = entry.1) (SortedMap.ofList entries).entries
      written) : Json.ofMembers written = .object written := by
  apply Json.ofMembers_of_isAscending
  rw [map_fst_eq_of_forall₂ h]
  exact SortedMap.ofList_wellFormed

/-! ## Objects -/

/-- What is known of each field when the members of an object are read. -/
def readFields (fields : List (String × JsonSchema)) (members : List (String × Json)) :
    List (String × Outcome Json) :=
  fields.map fun field ↦
    (field.1, (field.2.parseInput (members.lookup field.1)).within (.key field.1))

theorem map_fst_readFields (members : List (String × Json)) :
    (readFields fields members).map Prod.fst = fields.map Prod.fst := by
  rw [readFields, List.map_map]
  rfl

theorem parse_fieldsOf (members : List (String × Json)) :
    (fieldsOf fields).parse members = readFields fields members := by
  have hput : ∀ outcome : Outcome Json, outcome.map slot.put = outcome := by
    intro outcome
    cases outcome <;> rfl
  induction fields with
  | nil => rfl
  | cons field rest ih =>
    rw [fieldsOf, Fields.parse, ih, hput]
    rfl

theorem recordSchema_parseInput :
    (recordSchema fields denyUnknown).parseInput input =
      (Parts.requireObject input >>= fun members ↦
        Parts.collectRecord (readFields fields members)
          (if denyUnknown then Parts.unknownFields (fields.map Prod.fst) members else [])).map
        fun record ↦ .ofMembers record.fields := by
  simp only [← parse_fieldsOf, ← names_fieldsOf]
  rfl

theorem recordSchema_fits : ((recordSchema fields denyUnknown).parseInput input).Fits input :=
  Shape.parse_object_fits.map _

theorem recordSchema_parseInput_eq_ok_iff (hnames : (fields.map Prod.fst).Nodup)
    (h : ∀ field ∈ fields, ∀ input, (field.2.parseInput input).IsExplained) :
    (recordSchema fields denyUnknown).parseInput input = .ok v ↔
      ∃ members values, input = some (.object members) ∧
        (denyUnknown = true → ∀ member ∈ members, member.1 ∈ fields.map Prod.fst) ∧
        List.Forall₂ (fun field a ↦ field.2.parseInput (members.lookup field.1) = .ok a)
          fields values ∧ v = .ofMembers ((fields.map Prod.fst).zip values) := by
  have hcollect : ∀ members others record,
      Parts.collectRecord (readFields fields members) others = .ok record ↔ others = [] ∧
        ∃ values, List.Forall₂ (fun field a ↦
          field.2.parseInput (members.lookup field.1) = .ok a) fields values ∧
            record = ⟨(fields.map Prod.fst).zip values⟩ := by
    intro members others record
    rw [Parts.collectRecord_eq_ok_iff (by rwa [map_fst_readFields]), map_fst_readFields]
    · simp only [readFields, List.forall₂_map_left_iff, Outcome.within_eq_ok_iff]
    · exact List.forall_mem_map.2 fun field hfield ↦ (h field hfield _).within _
  rw [recordSchema_parseInput]
  simp only [map_eq_ok_iff, bind_eq_ok_iff, Parts.requireObject_eq_ok_iff, hcollect]
  cases denyUnknown <;> simp only [if_true, Bool.false_eq_true, if_false, true_and,
    Parts.unknownFields_eq_nil_iff, forall_const, false_implies] <;> grind

/-- What is written for a field: a slot that is not there is left out. -/
def Writes (s : JsonSchema) : (slot written : Option Json) → Prop
  | none, written => written = none
  | some a, written => s.serializeField a = .ok written

/-- A field and its partner, under the field's name. -/
theorem mem_zip_names {α : Type} {others : List α} {row : (String × JsonSchema) × α}
    (h : row ∈ fields.zip others) : (row.1.1, row.2) ∈ (fields.map Prod.fst).zip others := by
  rw [List.zip_map_left]
  exact List.mem_map_of_mem h

/-- Under each field's name stands the value that was read for it. -/
theorem lookup_ofList_zip {values : List Json} (hnames : (fields.map Prod.fst).Nodup)
    (hlength : fields.length = values.length) : ∀ row ∈ fields.zip values,
      (SortedMap.ofList ((fields.map Prod.fst).zip values)).entries.lookup row.1.1 =
        some row.2 := by
  intro row hrow
  have hle : (fields.map Prod.fst).length ≤ values.length := by
    rw [List.length_map]
    exact Nat.le_of_eq hlength
  have hkeys : (((fields.map Prod.fst).zip values).map Prod.fst).Nodup := by
    rwa [List.map_fst_zip hle]
  rw [SortedMap.lookup_ofList hkeys]
  exact lookup_of_mem hkeys (mem_zip_names hrow)

/-- Under each field's name stands what was written for it. -/
theorem lookup_ofList_presentMembers (written : List (Option Json))
    (hnames : (fields.map Prod.fst).Nodup) : ∀ row ∈ fields.zip written,
      (SortedMap.ofList (presentMembers (fields.map Prod.fst) written)).entries.lookup row.1.1 =
        row.2 := by
  intro row hrow
  have hpresent : ((presentMembers (fields.map Prod.fst) written).map Prod.fst).Nodup :=
    hnames.sublist presentMembers_sublist
  rw [SortedMap.lookup_ofList hpresent]
  exact lookup_presentMembers hnames _ (mem_zip_names hrow)

theorem serialize_fieldsOf_eq_ok_iff {record : Record Json} {members : List (String × Json)} :
    (fieldsOf fields).serialize record = .ok members ↔
      ∃ written, List.Forall₂ (fun field f ↦ Writes field.2 (record.slot? field.1) f)
        fields written ∧ presentMembers (fields.map Prod.fst) written = members := by
  induction fields generalizing members with
  | nil => simp [fieldsOf, Fields.serialize, presentMembers]
  | cons field rest ih =>
    have hslot : ∀ a, Writer.slot slot field.2.shape.describe field.2.shape.writer a =
        field.2.serializeField a := fun _ ↦ rfl
    rw [fieldsOf, Fields.serialize]
    cases hfield : record.slot? field.1 with
    | none =>
      simp only [ih, List.forall₂_cons_left_iff, hfield, Writes]
      constructor
      · rintro ⟨written, hwritten, rfl⟩
        exact ⟨none :: written, ⟨none, written, rfl, hwritten, rfl⟩, rfl⟩
      · rintro ⟨_, ⟨_, written, rfl, hwritten, rfl⟩, rfl⟩
        exact ⟨written, hwritten, rfl⟩
    | some a =>
      simp only [bind_bind_eq_ok_iff, mapError_eq_ok_iff, ih, List.forall₂_cons_left_iff, hfield,
        Writes, hslot]
      constructor
      · rintro ⟨f, _, hf, ⟨written, hwritten, rfl⟩, rfl⟩
        exact ⟨f :: written, ⟨f, written, hf, hwritten, rfl⟩, rfl⟩
      · rintro ⟨_, ⟨f, written, hf, hwritten, rfl⟩, rfl⟩
        exact ⟨f, _, hf, ⟨written, hwritten, rfl⟩, rfl⟩

/-- Members with distinct names are the fields of their record. -/
theorem recordOfMembers_eq {members : List (String × Json)} (h : (members.map Prod.fst).Nodup) :
    recordOfMembers members = ⟨members⟩ := by
  have hstore : ∀ (members : List (String × Json)) (r : Record Json),
      (r.names ++ members.map Prod.fst).Nodup →
      members.foldl (fun record member ↦ record.insert slot member.1 member.2) r =
        ⟨r.fields ++ members⟩ := by
    intro members
    induction members with
    | nil => simp
    | cons member rest ih =>
      intro r hnames
      have hname : member.1 ∉ r.names := fun hmem ↦
        (List.nodup_append.1 hnames).2.2 _ hmem _ List.mem_cons_self rfl
      have hinsert : r.insert slot member.1 member.2 = ⟨r.fields ++ [member]⟩ :=
        congrArg Record.mk (storeEntry_of_notMem hname)
      rw [List.foldl_cons, hinsert, ih _ (by simpa [Record.names] using hnames)]
      simp
  exact hstore members .empty h

/-- The values that were read for the fields of an object are in its slots. -/
theorem slot?_recordOfMembers_zip {values : List Json} (hnames : (fields.map Prod.fst).Nodup)
    (hlength : fields.length = values.length) : ∀ row ∈ fields.zip values,
      (recordOfMembers (SortedMap.ofList ((fields.map Prod.fst).zip values)).entries).slot?
        row.1.1 = some row.2 := by
  intro row hrow
  rw [recordOfMembers_eq SortedMap.nodup_keys_ofList, Record.slot?,
    lookup_ofList_zip hnames hlength row hrow]

/-- What was written for the fields of an object is what each of them is read from again, and there
are no other members. -/
theorem recordSchema_parse_written_eq_ok_iff {written : List (Option Json)}
    (hnames : (fields.map Prod.fst).Nodup) (hlength : fields.length = written.length)
    (h : ∀ field ∈ fields, ∀ input, (field.2.parseInput input).IsExplained) :
    (recordSchema fields denyUnknown).parse
        (.ofMembers (presentMembers (fields.map Prod.fst) written)) = .ok v ↔
      ∃ values, List.Forall₂ (fun row a ↦ row.1.2.parseInput row.2 = .ok a)
        (fields.zip written) values ∧ v = .ofMembers ((fields.map Prod.fst).zip values) := by
  have hfields : ∀ values, List.Forall₂ (fun field a ↦ field.2.parseInput ((SortedMap.ofList
        (presentMembers (fields.map Prod.fst) written)).entries.lookup field.1) = .ok a)
        fields values ↔
      List.Forall₂ (fun row a ↦ row.1.2.parseInput row.2 = .ok a) (fields.zip written) values := by
    intro values
    apply forall₂_iff_forall₂_zip hlength
    intro row hrow a
    rw [lookup_ofList_presentMembers written hnames row hrow]
  have hknown : ∀ member ∈ (SortedMap.ofList
      (presentMembers (fields.map Prod.fst) written)).entries, member.1 ∈ fields.map Prod.fst := by
    intro member hmember
    exact presentMembers_sublist.subset
      (List.mem_map_of_mem (SortedMap.mem_of_mem_ofList hmember))
  refine (recordSchema_parseInput_eq_ok_iff hnames h).trans ⟨?_, ?_⟩
  · rintro ⟨members, values, hmembers, -, hread, rfl⟩
    cases hmembers
    exact ⟨values, (hfields values).1 hread, rfl⟩
  · rintro ⟨values, hread, rfl⟩
    exact ⟨_, values, rfl, fun _ ↦ hknown, (hfields values).2 hread, rfl⟩

theorem recordSchema_serialize_eq_ok_iff :
    (recordSchema fields denyUnknown).serialize v = .ok w ↔
      ∃ members written, v = .object members ∧
        List.Forall₂ (fun field f ↦ Writes field.2 ((recordOfMembers members).slot? field.1) f)
          fields written ∧ w = .ofMembers (presentMembers (fields.map Prod.fst) written) := by
  rw [recordSchema, Schema.map_serialize_eq_ok_iff]
  simp only [Option.map_eq_some_iff, toMembers?_eq_some_iff]
  constructor
  · rintro ⟨_, ⟨members, rfl, rfl⟩, hwrite⟩
    obtain ⟨_, hserialize, rfl⟩ := map_eq_ok_iff.1 hwrite
    obtain ⟨written, hwritten, rfl⟩ := serialize_fieldsOf_eq_ok_iff.1 hserialize
    exact ⟨members, written, rfl, hwritten, rfl⟩
  · rintro ⟨members, written, rfl, hwritten, rfl⟩
    refine ⟨_, ⟨members, rfl, rfl⟩, map_eq_ok_iff.2 ⟨_, ?_, rfl⟩⟩
    exact serialize_fieldsOf_eq_ok_iff.2 ⟨written, hwritten, rfl⟩

end Descriptor

end TwoWaySchema
