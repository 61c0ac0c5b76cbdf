import TwoWaySchema.Proofs.Shape.RoundTrip

/-!
# Optional and nullable fields

A field can be absent, null or a value, and any number of optional and nullable wrappers says what
each of these is read as.  A value and a null come back as they were read.  So does an absent field,
unless a nullable wraps an optional: what the optional leaves out on its own, the nullable writes as
a null, and it reads that null as its own.
-/

namespace TwoWaySchema

variable {σ : Type}

namespace Shape

/-- Optional and nullable wrappers, in any number and order, of a shape that restores its values. -/
inductive IsStack : {α : Type} → Shape σ α → Prop
  | base {α : Type} {s : Shape σ α} (h : s.IsReversible) (hwraps : ¬ s.WrapsOptional) : IsStack s
  | optional {α : Type} {inner : Shape σ α} (h : IsStack inner) : IsStack (.optional inner)
  | nullable {α : Type} {inner : Shape σ α} (h : IsStack inner) : IsStack (.nullable inner)

/-- A nullable shape wraps an optional one, be it through other wrappers. -/
def HidesOptional : {α : Type} → Shape σ α → Prop
  | _, optional inner => inner.HidesOptional
  | _, nullable inner => inner.WrapsOptional
  | _, _ => False

variable {α : Type} {inner s : Shape σ α} {a : α}

namespace IsStack

theorem isStandard (h : s.IsStack) : s.IsStandard := by
  induction h with
  | base h _ => exact Shape.isStandard _ h
  | optional _ ih => exact ih
  | nullable _ ih => exact ih

theorem parse_none_ne_ok (h : s.IsStack) (hwraps : ¬ s.WrapsOptional) (a : α) :
    s.parse none ≠ .ok a := by
  induction h with
  | base h hbase => exact Shape.parse_none_ne_ok _ h hbase a
  | optional => exact absurd trivial hwraps
  | @nullable _ inner _ ih =>
    intro hread
    have hnone : (Shape.nullable inner).parse none = (inner.parse none).map some := rfl
    obtain ⟨b, hb, -⟩ := map_eq_ok_iff.1 (hnone.symm.trans hread)
    exact ih hwraps b hb

/-- Where an absent value is read, a null is read too. -/
theorem exists_parse_null (h : s.IsStack) (ha : s.parse none = .ok a) :
    ∃ b, s.parse (some .null) = .ok b := by
  by_cases hwraps : s.WrapsOptional
  · exact Shape.exists_parse_null s h.isStandard hwraps
  · exact absurd ha (h.parse_none_ne_ok hwraps a)

/-! ## Values -/

/-- A value is written to one that is not null, and from that the same value is read. -/
def RestoresPresent (s : Shape σ α) (a : α) : Prop :=
  ∃ w b, s.serialize a = .ok w ∧ w ≠ .null ∧ s.parse (some w) = .ok b ∧ s.Same a b

theorem restoresPresent (h : s.IsStack) {x : Json} (hx : x ≠ .null)
    (hread : s.parse (some x) = .ok a) : RestoresPresent s a := by
  induction h with
  | @base _ s h hbase =>
    obtain ⟨w, b, hw, hb, hab⟩ := (s.roundTrips h).root x a hread
    refine ⟨w, b, hw, ?_, hb, hab⟩
    rintro rfl
    exact s.serialize_ne_null h hbase x a hx hread hw
  | @optional _ inner h ih =>
    cases a with
    | none =>
      have hvacant := ((parse_optional_eq_none_iff (inner.parse_fits h.isStandard _)).1 hread).1
      exact absurd hvacant (not_isVacant_some.2 hx)
    | some a =>
      obtain ⟨w, b, hw, hnull, hb, hab⟩ := ih (parse_optional_eq_some_iff.1 hread)
      exact ⟨w, some b, hw, hnull, parse_optional_eq_some_iff.2 hb, .some hab⟩
  | @nullable _ inner _ ih =>
    rw [parse_nullable_of_ne (by simpa using hx)] at hread
    obtain ⟨a, ha, rfl⟩ := map_eq_ok_iff.1 hread
    obtain ⟨w, b, hw, hnull, hb, hab⟩ := ih ha
    have hread' : (Shape.nullable inner).parse (some w) = .ok (some b) := by
      rw [parse_nullable_of_ne (by simpa using hnull)]
      exact map_eq_ok_iff.2 ⟨b, hb, rfl⟩
    exact ⟨w, some b, hw, hnull, hread', .some hab⟩

/-- What is not written as a null is not left out of a field. -/
theorem RestoresPresent.restoresField (h : RestoresPresent s a) : s.RestoresField a := by
  obtain ⟨w, b, hw, hnull, hb, hab⟩ := h
  have hwritten : (s.serializeField a).map (·.getD .null) = .ok w :=
    (s.writer_isCoherent a).symm.trans hw
  obtain ⟨written, hfield, hgetD⟩ := map_eq_ok_iff.1 hwritten
  cases written with
  | none => exact absurd hgetD.symm hnull
  | some x =>
    obtain rfl : x = w := hgetD
    exact ⟨some x, b, hfield, hb, hab⟩

/-! ## Nulls -/

/-- The outermost nullable reads a null, and writes what it read as one.  Without a nullable it is
an optional that reads the null, and an absent value in the same way. -/
theorem restoresField_of_null (h : s.IsStack) (hread : s.parse (some .null) = .ok a) :
    s.RestoresField a := by
  induction h with
  | @base _ s h _ => exact (s.roundTrips h).field _ a hread
  | @optional _ inner h ih =>
    cases a with
    | none =>
      have hfits := inner.parse_fits h.isStandard
      obtain ⟨-, hno⟩ := (parse_optional_eq_none_iff (hfits _)).1 hread
      have habsent : (Shape.optional inner).parse none = .ok none := by
        refine (parse_optional_eq_none_iff (hfits _)).2 ⟨.inl rfl, fun a ha ↦ ?_⟩
        obtain ⟨b, hb⟩ := h.exists_parse_null ha
        exact hno b hb
      exact ⟨none, none, rfl, habsent, .none⟩
    | some a =>
      obtain ⟨written, b, hw, hb, hab⟩ := ih (parse_optional_eq_some_iff.1 hread)
      exact ⟨written, some b, hw, parse_optional_eq_some_iff.2 hb, .some hab⟩
  | nullable =>
    cases hread
    exact ⟨some .null, none, rfl, rfl, .none⟩

/-! ## Absent values -/

theorem exists_parse_none (h : s.IsStack) (hwraps : s.WrapsOptional) :
    ∃ a, s.parse none = .ok a := by
  induction h with
  | base _ hbase => exact absurd hwraps hbase
  | @optional _ inner h _ =>
    have hvacant : IsVacant none := .inl rfl
    cases hread : (Shape.optional inner).parse none with
    | ok a => exact ⟨a, rfl⟩
    | error failure =>
      have hfits := inner.parse_fits h.isStandard none
      exact absurd hvacant ((parse_optional_eq_error_iff hfits).1 hread).1
  | nullable _ ih =>
    obtain ⟨a, ha⟩ := ih hwraps
    exact ⟨some a, map_eq_ok_iff.2 ⟨a, ha, rfl⟩⟩

end IsStack

theorem wrapsOptional_of_hidesOptional : {α : Type} → (s : Shape σ α) → s.HidesOptional →
    s.WrapsOptional
  | _, optional _, _ => trivial
  | _, nullable _, h => h

namespace IsStack

/-- What was read from nothing is a null where it is written, and in a field it is left out as long
as there are optionals only.  A nullable that passed the absent value on to an optional writes the
null, from which it reads nothing again. -/
theorem exists_reread_of_absent (h : s.IsStack) (hread : s.parse none = .ok a) :
    s.serialize a = .ok .null ∧ ∃ written b, s.serializeField a = .ok written ∧
      s.parse written = .ok b ∧ (s.Same a b ↔ ¬ s.HidesOptional) := by
  induction h with
  | @base _ s h hbase => exact absurd hread (s.parse_none_ne_ok h hbase a)
  | @optional _ inner h ih =>
    cases a with
    | none =>
      obtain ⟨-, hno⟩ :=
        (parse_optional_eq_none_iff (inner.parse_fits h.isStandard _)).1 hread
      have hhides : ¬ inner.HidesOptional := by
        intro hhides
        obtain ⟨b, hb⟩ := h.exists_parse_none (inner.wrapsOptional_of_hidesOptional hhides)
        exact hno b hb
      exact ⟨rfl, none, none, rfl, hread, iff_of_true .none hhides⟩
    | some a =>
      obtain ⟨hnull, written, b, hw, hb, hab⟩ := ih (parse_optional_eq_some_iff.1 hread)
      have hsame : (Shape.optional inner).Same (some a) (some b) ↔ inner.Same a b :=
        Option.rel_some_some
      exact ⟨hnull, written, some b, hw, parse_optional_eq_some_iff.2 hb, hsame.trans hab⟩
  | @nullable _ inner h ih =>
    have hnone : (Shape.nullable inner).parse none = (inner.parse none).map some := rfl
    obtain ⟨a, ha, rfl⟩ := map_eq_ok_iff.1 (hnone.symm.trans hread)
    obtain ⟨hnull, -⟩ := ih ha
    have hwraps : inner.WrapsOptional := by
      by_contra hwraps
      exact h.parse_none_ne_ok hwraps a ha
    refine ⟨hnull, some .null, none, map_eq_ok_iff.2 ⟨.null, hnull, rfl⟩, rfl, ?_⟩
    exact iff_of_false (fun hsame ↦ by cases hsame) (not_not_intro hwraps)

/-! ## Fields -/

/-- What a field read is written and read again, and it is the same value unless the field was
absent and a nullable wraps an optional. -/
theorem exists_rereadField (h : s.IsStack) {input : Option Json} (hread : s.parse input = .ok a) :
    ∃ written b, s.serializeField a = .ok written ∧ s.parse written = .ok b ∧
      (s.Same a b ↔ ¬ (input = none ∧ s.HidesOptional)) := by
  have hrestores : input ≠ none → s.RestoresField a := by
    intro hinput
    obtain ⟨x, rfl⟩ := Option.ne_none_iff_exists'.1 hinput
    by_cases hnull : x = .null
    · exact h.restoresField_of_null (hnull ▸ hread)
    · exact (h.restoresPresent hnull hread).restoresField
  by_cases hinput : input = none
  · subst hinput
    obtain ⟨-, written, b, hw, hb, hab⟩ := h.exists_reread_of_absent hread
    exact ⟨written, b, hw, hb, by simpa using hab⟩
  · obtain ⟨written, b, hw, hb, hab⟩ := hrestores hinput
    exact ⟨written, b, hw, hb, iff_of_true hab fun habsent ↦ hinput habsent.1⟩

end IsStack

end Shape

theorem Fields.all_isExplained_of_isStack : (fields : Fields σ) →
    fields.All (fun s ↦ s.IsStack) → fields.All fun s ↦ ∀ input, (s.parse input).IsExplained
  | .nil, _ => trivial
  | .cons _ _ _ rest, h =>
    ⟨Shape.isExplained_parse h.1.isStandard, rest.all_isExplained_of_isStack h.2⟩

/-- A record of stacks that was read is written and read again.  Each field then holds the same
value, unless the field was absent and a nullable wraps an optional in its schema. -/
theorem ObjectBuilder.IsConsistent.exists_reread {b : ObjectBuilder σ} {s : Schema σ (Record σ)}
    (h : b.IsConsistent) (hs : b.build = .ok s) (hstacks : b.fields.All fun s ↦ s.IsStack)
    {members : List (String × Json)} {r : Record σ} (hread : s.parse (.object members) = .ok r) :
    ∃ w r', s.serialize r = .ok w ∧ s.parse w = .ok r' ∧
      ∀ {α : Type} (name : String) (type : SlotType σ α) (shape : Shape σ α),
        b.fields.Declares name type shape → ∃ v v', r.get? type name = some v ∧
          r'.get? type name = some v' ∧
          (shape.Same v v' ↔ ¬ (members.lookup name = none ∧ shape.HidesOptional)) := by
  obtain ⟨hnames, rfl⟩ := h.build_eq_ok_iff.1 hs
  have hexplained := b.fields.all_isExplained_of_isStack hstacks
  have hfields : ∀ {α : Type} (name : String) (type : SlotType σ α) (shape : Shape σ α),
      b.fields.Declares name type shape → ∃ a x a', r.slot? name = some (type.put a) ∧
        shape.serializeField a = .ok x ∧ shape.parse x = .ok a' ∧
        (shape.Same a a' ↔ ¬ (members.lookup name = none ∧ shape.HidesOptional)) := by
    intro α name type shape hfield
    obtain ⟨a, ha, hslot⟩ := Shape.exists_slot_of_parse_object hnames.2 hexplained hread hfield
    obtain ⟨x, a', hx, ha', hsame⟩ := (hstacks.of_declares hfield).exists_rereadField ha
    exact ⟨a, x, a', hslot, hx, ha', hsame⟩
  obtain ⟨w, r', hw, hr', hslots⟩ :=
    Shape.exists_reread_object b.denyUnknown hnames.2 hexplained fun name type shape hfield ↦ by
      obtain ⟨a, x, a', hslot, hx, ha', -⟩ := hfields name type shape hfield
      exact ⟨a, x, a', hslot, hx, ha'⟩
  refine ⟨w, r', hw, hr', fun name type shape hfield ↦ ?_⟩
  obtain ⟨a, x, a', hslot, hx, ha', hsame⟩ := hfields name type shape hfield
  obtain ⟨a'', ha'', hslot'⟩ := hslots name type shape a x hfield hslot hx
  obtain rfl : a' = a'' := Except.ok.inj (ha'.symm.trans ha'')
  refine ⟨a, a', ?_, ?_, hsame⟩
  · rw [Record.get?, hslot, Option.bind_some, SlotType.get?_put]
  · rw [Record.get?, hslot', Option.bind_some, SlotType.get?_put]

namespace Schema

/-- A text that is nullable and optional, in both orders of the wrappers. -/
def nicknameBuilder : ObjectBuilder (Option (Option String)) :=
  (ObjectBuilder.empty.field "outside" (.self _ "Option<Option<String>>")
    string.optional.nullable).field "inside" (.self _ "Option<Option<String>>")
      string.nullable.optional

def nicknameSchema : Schema (Option (Option String)) (Record (Option (Option String))) :=
  ⟨.object nicknameBuilder.fields false, none⟩

theorem nicknameBuilder_isConsistent : nicknameBuilder.IsConsistent :=
  (ObjectBuilder.isConsistent_empty.field _ _ _).field _ _ _

theorem nicknameBuilder_stacks : nicknameBuilder.fields.All fun s ↦ s.IsStack :=
  ⟨.nullable (.optional (.base trivial id)), .optional (.nullable (.base trivial id)), trivial⟩

/-- The nullable outside turns an absent field to a null, and no longer reads what it was. -/
theorem nicknameSchema_loses_absence :
    nicknameBuilder.build = .ok nicknameSchema ∧
      nicknameSchema.parse (.object []) =
        .ok ⟨[("outside", some none), ("inside", none)]⟩ ∧
      nicknameSchema.serialize ⟨[("outside", some none), ("inside", none)]⟩ =
        .ok (.object [("outside", .null)]) ∧
      nicknameSchema.parse (.object [("outside", .null)]) =
        .ok ⟨[("outside", none), ("inside", none)]⟩ :=
  ⟨rfl, rfl, rfl, rfl⟩

theorem nicknameSchema_exists_reread :
    nicknameBuilder.IsConsistent ∧ nicknameBuilder.build = .ok nicknameSchema ∧
      (nicknameBuilder.fields.All fun s ↦ s.IsStack) ∧
      nicknameSchema.parse (.object [("inside", .null)]) =
        .ok ⟨[("outside", some none), ("inside", some none)]⟩ ∧
      ∃ w r', nicknameSchema.serialize ⟨[("outside", some none), ("inside", some none)]⟩ = .ok w ∧
        nicknameSchema.parse w = .ok r' ∧
        ∀ {α : Type} (name : String) (type : SlotType (Option (Option String)) α)
          (shape : Shape (Option (Option String)) α),
          nicknameBuilder.fields.Declares name type shape → ∃ v v',
            Record.get? type ⟨[("outside", some none), ("inside", some none)]⟩ name = some v ∧
            r'.get? type name = some v' ∧
            (shape.Same v v' ↔
              ¬ (List.lookup name [("inside", Json.null)] = none ∧ shape.HidesOptional)) := by
  have hread : nicknameSchema.parse (.object [("inside", .null)]) =
      .ok ⟨[("outside", some none), ("inside", some none)]⟩ := rfl
  exact ⟨nicknameBuilder_isConsistent, rfl, nicknameBuilder_stacks, hread,
    nicknameBuilder_isConsistent.exists_reread rfl nicknameBuilder_stacks hread⟩

end Schema

end TwoWaySchema
