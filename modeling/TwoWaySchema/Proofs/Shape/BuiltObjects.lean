import TwoWaySchema.Proofs.ObjectBuilder
import TwoWaySchema.Proofs.Shape.DeclaredFields

/-!
# Objects that were built

The schema that a builder gives reads records with the names that were declared, in the order in
which they were, and writes no others.  Where unknown fields are denied it has the errors that it
had without that, and then one for each key that was not declared.
-/

namespace TwoWaySchema

variable {σ : Type}

theorem Fields.all_append {p : {α : Type} → Shape σ α → Prop} :
    (fields others : Fields σ) → fields.All p → others.All p → (fields.append others).All p
  | .nil, _, _, h => h
  | .cons _ _ _ rest, others, h, hothers => ⟨h.1, rest.all_append others h.2 hothers⟩

namespace Shape

variable {fields : Fields σ} {denyUnknown : Bool} {members : List (String × Json)}
  {record : Record σ} {w : Json}

theorem parse_object_members :
    (object fields denyUnknown).parse (some (.object members)) =
      Parts.collectRecord (fields.parse members)
        (if denyUnknown then Parts.unknownFields fields.names members else []) := rfl

theorem names_sublist_of_parse_object (hnames : fields.names.Nodup)
    (h : (object fields denyUnknown).parse (some (.object members)) = .ok record) :
    record.names.Sublist fields.names := by
  rw [← fields.map_fst_parse members] at hnames ⊢
  exact Parts.names_sublist_of_collectRecord hnames h

/-- Where every failure names an error, none of the declared fields is left out. -/
theorem names_eq_of_parse_object (hnames : fields.names.Nodup)
    (hexplained : fields.All fun s ↦ ∀ input, (s.parse input).IsExplained)
    (h : (object fields denyUnknown).parse (some (.object members)) = .ok record) :
    record.names = fields.names := by
  obtain ⟨read, -, -, hreads⟩ := (parse_object_eq_ok_iff hnames hexplained).1 h
  exact hreads.map_fst

/-- After the errors of the fields come those of the undeclared keys, in the order of the keys. -/
theorem exists_undeclared (hkeys : IsAscending (members.map Prod.fst)) :
    ∃ undeclared, IsAscending undeclared ∧
      (∀ key, key ∈ undeclared ↔ key ∈ members.map Prod.fst ∧ key ∉ fields.names) ∧
      ((object fields true).parse (some (.object members))).errors =
        ((object fields false).parse (some (.object members))).errors ++
          undeclared.map (fun key ↦ ⟨[.key key], .shapeMismatch, "unknown field"⟩) ∧
      (undeclared = [] → (object fields true).parse (some (.object members)) =
        (object fields false).parse (some (.object members))) := by
  refine ⟨(members.map Prod.fst).filter fun key ↦ !fields.names.contains key,
    hkeys.sublist List.filter_sublist, fun key ↦ by simp, ?_, fun hnone ↦ ?_⟩
  · rw [parse_object_members, parse_object_members, Parts.errors_collectRecord,
      Parts.errors_collectRecord, if_pos rfl, if_neg Bool.false_ne_true, List.append_nil]
    rfl
  · rw [parse_object_members, parse_object_members, if_pos rfl, if_neg Bool.false_ne_true,
      Parts.unknownFields, hnone, List.map_nil]

theorem exists_of_serialize_object (h : (object fields denyUnknown).serialize record = .ok w) :
    ∃ written, w = .object written ∧ ∀ member ∈ written, member.1 ∈ fields.names := by
  obtain ⟨written, hwritten, rfl⟩ := map_eq_ok_iff.1 h
  refine ⟨_, rfl, fun member hmember ↦ ?_⟩
  have hkeys := fields.map_fst_serialize_sublist hwritten
  exact hkeys.subset (List.mem_map_of_mem (SortedMap.mem_of_mem_ofList hmember))

end Shape

namespace ObjectBuilder

variable {calls : List (Call σ)}

/-- The failures of the field's schema all name an error. -/
def Call.IsExplained : Call σ → Prop
  | field _ _ schema => ∀ input, (schema.parseInput input).IsExplained
  | denyUnknownFields => True

theorem all_isExplained_ofCalls (h : ∀ call ∈ calls, call.IsExplained) :
    (ofCalls calls).fields.All fun s ↦ ∀ input, (s.parse input).IsExplained := by
  induction calls using List.reverseRecOn with
  | nil => trivial
  | append_singleton calls call ih =>
    have hfields := ih fun other hother ↦ h other (List.mem_append_left _ hother)
    have hcall := h call (List.mem_append_right _ (List.mem_singleton_self call))
    rw [ofCalls_append_singleton]
    cases call with
    | field name type schema => exact Fields.all_append _ _ hfields ⟨hcall, trivial⟩
    | denyUnknownFields => exact hfields

/-- Whatever fields are declared and wherever unknown ones are denied, the schema is built exactly
when no name is empty and none comes twice, and else the first name that is wrong is reported.  The
schema reads records with the declared names in their order, where every failure names an error,
and never any others.  One that denies has the errors of the same schema without denials and then
one for each key that was not declared, in the order of the keys.  What it writes has declared keys
only. -/
theorem builds_declared_objects (calls : List (Call σ)) :
    let b := ofCalls calls
    let declared := declaredNames calls
    ((∃ s, b.build = .ok s) ↔ (∀ name ∈ declared, name ≠ "") ∧ declared.Nodup) ∧
    (∀ error, b.build = .error error ↔ IsFirstFault declared error) ∧
    ∀ s, b.build = .ok s →
      (∀ members record, s.parse (.object members) = .ok record →
        record.names.Sublist declared ∧
          ((∀ call ∈ calls, call.IsExplained) → record.names = declared)) ∧
      (∃ lenient, (ofCalls (withoutDenials calls)).build = .ok lenient ∧
        (.denyUnknownFields ∉ calls → s = lenient) ∧
        (.denyUnknownFields ∈ calls → ∀ members, IsAscending (members.map Prod.fst) →
          ∃ undeclared, IsAscending undeclared ∧
            (∀ key, key ∈ undeclared ↔ key ∈ members.map Prod.fst ∧ key ∉ declared) ∧
            (s.parse (.object members)).errors = (lenient.parse (.object members)).errors ++
              undeclared.map (fun key ↦ ⟨[.key key], .shapeMismatch, "unknown field"⟩) ∧
            (undeclared = [] →
              s.parse (.object members) = lenient.parse (.object members)))) ∧
      ∀ record w, s.serialize record = .ok w →
        ∃ written, w = .object written ∧ ∀ member ∈ written, member.1 ∈ declared := by
  intro b declared
  have hfollows : b.Follows calls := ofCalls_follows calls
  have hnames : b.fields.names = declared := hfollows.names_eq
  refine ⟨?_, fun error ↦ build_ofCalls_eq_error_iff, fun s hs ↦ ?_⟩
  · simp only [b, build_ofCalls_eq_ok_iff, exists_and_left, exists_eq, and_true]
    rfl
  obtain ⟨hdeclared, rfl⟩ := build_ofCalls_eq_ok_iff.1 hs
  have hnodup : b.fields.names.Nodup := hnames ▸ hdeclared.2
  refine ⟨fun members record hread ↦ ⟨?_, fun hexplained ↦ ?_⟩,
    ⟨⟨.object b.fields false, none⟩, ?_, fun hlenient ↦ ?_, fun hdenies members hkeys ↦ ?_⟩,
    fun record w hw ↦ hnames ▸ Shape.exists_of_serialize_object hw⟩
  · exact hnames ▸ Shape.names_sublist_of_parse_object hnodup hread
  · exact (Shape.names_eq_of_parse_object hnodup (all_isExplained_ofCalls hexplained) hread).trans
      hnames
  · have hlenient : { b with denyUnknown := false }.IsConsistent := hfollows.isConsistent
    rw [ofCalls_withoutDenials, hlenient.build_eq_ok_iff]
    exact ⟨hnames ▸ hdeclared, rfl⟩
  · have hdeny : b.denyUnknown = false :=
      Bool.eq_false_iff.2 (mt hfollows.denyUnknown_iff.1 hlenient)
    change (⟨.object b.fields b.denyUnknown, none⟩ : Schema σ (Record σ)) = _
    rw [hdeny]
  · have hdeny : b.denyUnknown = true := hfollows.denyUnknown_iff.2 hdenies
    rw [hdeny, ← hnames]
    exact Shape.exists_undeclared hkeys

/-- Two texts, with the denial between their declarations. -/
def noteCalls : List (Call String) :=
  [.field "id" (.self String "String") Schema.string, .denyUnknownFields,
    .field "body" (.self String "String") Schema.string]

theorem noteCalls_isExplained : ∀ call ∈ noteCalls, call.IsExplained := by
  have hstring (input : Option Json) :
      ((Schema.string : Schema String String).parseInput input).IsExplained :=
    Leaf.readString_fits.isExplained
  exact List.forall_mem_cons.2 ⟨hstring, List.forall_mem_cons.2 ⟨trivial,
    List.forall_mem_singleton.2 hstring⟩⟩

/-- A note is read with its names as they were declared, and a key that is none of them is reported
after the body that is missing. -/
theorem noteCalls_builds_declared_object : ∃ s, (ofCalls noteCalls).build = .ok s ∧
    (∃ record, s.parse (.object [("body", .string "b"), ("id", .string "a")]) = .ok record ∧
      record.names = ["id", "body"] ∧
      ∃ written, s.serialize record = .ok (.object written) ∧
        ∀ member ∈ written, member.1 ∈ ["id", "body"]) ∧
    (s.parse (.object [("extra", .null), ("id", .string "a")])).errors.getLast? =
      some ⟨[.key "extra"], .shapeMismatch, "unknown field"⟩ := by
  obtain ⟨hbuild, -, hschema⟩ := builds_declared_objects noteCalls
  obtain ⟨s, hs⟩ := hbuild.2 (by decide)
  obtain ⟨hreads, ⟨lenient, -, -, hdenies⟩, hwrites⟩ := hschema s hs
  obtain ⟨undeclared, hascending, hundeclared, herrors, -⟩ :=
    hdenies (List.mem_cons_of_mem _ List.mem_cons_self) [("extra", .null), ("id", .string "a")]
      (List.pairwise_pair.2 (by decide))
  have hextra : undeclared = ["extra"] := by
    refine List.perm_singleton.1 ((List.perm_ext_iff_of_nodup hascending.nodup
      (List.nodup_singleton _)).2 fun key ↦ ?_)
    rw [hundeclared]
    simp [declaredNames, noteCalls, Call.name?]
    grind
  refine ⟨s, hs, ?_, ?_⟩
  · obtain rfl : s = _ := Except.ok.inj (hs.symm.trans rfl)
    have hread := hreads [("body", .string "b"), ("id", .string "a")]
      ⟨[("id", "a"), ("body", "b")]⟩ rfl
    obtain ⟨written, hwritten, hkeys⟩ := hwrites ⟨[("id", "a"), ("body", "b")]⟩
      (.object [("body", .string "b"), ("id", .string "a")]) rfl
    exact ⟨_, rfl, hread.2 noteCalls_isExplained, written, congrArg Except.ok hwritten, hkeys⟩
  · rw [herrors, hextra]
    exact List.getLast?_concat

/-- Two texts, of which the first one fails without saying what is wrong. -/
def silentCalls : List (Call String) :=
  [.field "id" (.self String "String") (Schema.string.recover fun _ ↦ .error ⟨[], none⟩),
    .field "body" (.self String "String") Schema.string]

/-- The object is read, as there is no error, into a record without the first of its two names. -/
theorem silentCalls_lose_name : declaredNames silentCalls = ["id", "body"] ∧
    ∃ s, (ofCalls silentCalls).build = .ok s ∧
      ∃ record, s.parse (.object [("body", .string "b"), ("id", .bool true)]) = .ok record ∧
        record.names = ["body"] :=
  ⟨rfl, _, rfl, _, rfl, rfl⟩

end ObjectBuilder

end TwoWaySchema
