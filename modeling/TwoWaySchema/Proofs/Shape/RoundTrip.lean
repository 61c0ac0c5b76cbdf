import TwoWaySchema.Proofs.Shape.DeclaredFields
import TwoWaySchema.Proofs.Shape.Patterns
import TwoWaySchema.Proofs.Shape.Same

/-!
# Round trips through typed schemas

What a schema has read it writes to data from which it reads the same value again.  In a field a
value can be left out, so what is written and read there may be absent.  A set and a map come back
in their order, which sees no difference between values that are the same, and a set that keeps the
order of its elements comes back without a repeated one for the same reason.
-/

namespace TwoWaySchema

variable {σ : Type}

namespace Shape

/-- A shape that is optional but for its nullable wrappers. -/
def WrapsOptional : {α : Type} → Shape σ α → Prop
  | _, optional _ => True
  | _, nullable inner => inner.WrapsOptional
  | _, _ => False

end Shape

mutual

/-- Shapes of scalars, timestamps apart, of sets and maps with orders and equalities that tell
values apart, and of the other containers, where no null can stand for two values.  The engine of
regular expressions takes no flag twice in a group. -/
def Shape.IsReversible : {α : Type} → Shape σ α → Prop
  | _, .string _ => True
  | _, .number _ => True
  | _, .integer _ => True
  | _, .boolean _ => True
  | _, .regex engine => engine.RejectsRepeatedFlags
  | _, .optional inner => inner.IsReversible
  | _, .nullable inner => inner.IsReversible ∧ ¬ inner.WrapsOptional
  | _, .array element => element.IsReversible
  | _, .set order element => element.IsReversible ∧ IsOrderOf order element.Same
  | _, .distinct equality element =>
    element.IsReversible ∧ ∀ a b, equality.beq a b = true ↔ element.Same a b
  | _, .indexed value => value.IsReversible
  | _, .mapOf order key value =>
    key.IsReversible ∧ value.IsReversible ∧ IsOrderOf order key.Same
  | _, .tuple items => items.IsReversible
  | _, .object fields _ => fields.IsReversible ∧ fields.names.Nodup
  | _, _ => False

def Shapes.IsReversible : {αs : List Type} → Shapes σ αs → Prop
  | _, .nil => True
  | _, .cons first rest => first.IsReversible ∧ rest.IsReversible

def Fields.IsReversible : Fields σ → Prop
  | .nil => True
  | .cons _ _ shape rest => shape.IsReversible ∧ rest.IsReversible

end

mutual

theorem Shape.isStandard : {α : Type} → (s : Shape σ α) → s.IsReversible → s.IsStandard
  | _, .string _, _ | _, .number _, _ | _, .integer _, _ | _, .boolean _, _ | _, .regex _, _ =>
    trivial
  | _, .optional inner, h => inner.isStandard h
  | _, .nullable inner, h => inner.isStandard h.1
  | _, .array element, h => element.isStandard h
  | _, .set _ element, h => element.isStandard h.1
  | _, .distinct _ element, h => element.isStandard h.1
  | _, .indexed value, h => value.isStandard h
  | _, .mapOf _ key value, h => ⟨key.isStandard h.1, value.isStandard h.2.1⟩
  | _, .tuple items, h => items.isStandard h
  | _, .object fields _, h => fields.isStandard h.1

theorem Shapes.isStandard : {αs : List Type} → (items : Shapes σ αs) → items.IsReversible →
    items.IsStandard
  | _, .nil, _ => trivial
  | _, .cons first rest, h => ⟨first.isStandard h.1, rest.isStandard h.2⟩

theorem Fields.isStandard : (fields : Fields σ) → fields.IsReversible → fields.IsStandard
  | .nil, _ => trivial
  | .cons _ _ shape rest, h => ⟨shape.isStandard h.1, rest.isStandard h.2⟩

end

theorem Shape.isExplained_parse_some {α : Type} (s : Shape σ α) (h : s.IsReversible) (x : Json) :
    (s.parse (some x)).IsExplained :=
  Shape.isExplained_parse (s.isStandard h) (some x)

/-! ## Nulls -/

namespace Shape

/-- Nothing but an optional value can be absent. -/
theorem parse_none_ne_ok : {α : Type} → (s : Shape σ α) → s.IsReversible → ¬ s.WrapsOptional →
    ∀ a, s.parse none ≠ .ok a
  | _, .string _, _, _, _ | _, .number _, _, _, _ | _, .integer _, _, _, _ => nofun
  | _, .boolean coerces, _, _, _ => by cases coerces <;> exact nofun
  | _, .regex _, _, _, _ => nofun
  | _, .optional _, _, h, _ => absurd trivial h
  | _, .nullable inner, h, hwraps, _ => by
    have hnone : (nullable inner).parse none = (inner.parse none).map some := rfl
    intro hread
    obtain ⟨a, ha, -⟩ := map_eq_ok_iff.1 (hnone.symm.trans hread)
    exact inner.parse_none_ne_ok h.1 hwraps a ha
  | _, .array _, _, _, _ | _, .set _ _, _, _, _ | _, .distinct _ _, _, _, _ => nofun
  | _, .indexed _, _, _, _ | _, .mapOf _ _ _, _, _, _ => nofun
  | _, .tuple _, _, _, _ | _, .object _ _, _, _, _ => nofun

/-- A shape that is optional but for nullable wrappers reads every null. -/
theorem exists_parse_null : {α : Type} → (s : Shape σ α) → s.IsStandard → s.WrapsOptional →
    ∃ a, s.parse (some .null) = .ok a
  | _, .optional inner, h, _ => by
    have hvacant : IsVacant (some .null) := .inr rfl
    cases hread : (optional inner).parse (some .null) with
    | ok a => exact ⟨a, rfl⟩
    | error failure =>
      exact absurd hvacant ((parse_optional_eq_error_iff (inner.parse_fits h _)).1 hread).1
  | _, .nullable _, _, _ => ⟨none, rfl⟩

/-- What is read from nothing is read from a null too. -/
theorem exists_parse_null_of_parse_none {α : Type} (s : Shape σ α) (h : s.IsReversible) {a : α}
    (ha : s.parse none = .ok a) : ∃ b, s.parse (some .null) = .ok b := by
  by_cases hwraps : s.WrapsOptional
  · exact s.exists_parse_null (s.isStandard h) hwraps
  · exact absurd ha (s.parse_none_ne_ok h hwraps a)

theorem map_ne_null {β : Type} {f : β → Json} {x : Except SerializeError β}
    (h : ∀ b, f b ≠ .null) : x.map f ≠ .ok .null := by
  intro hmap
  obtain ⟨b, -, hb⟩ := map_eq_ok_iff.1 hmap
  exact h b hb

/-- A value that was not read from a null is not written as one, unless it may be absent. -/
theorem serialize_ne_null : {α : Type} → (s : Shape σ α) → s.IsReversible → ¬ s.WrapsOptional →
    ∀ raw a, raw ≠ .null → s.parse (some raw) = .ok a → s.serialize a ≠ .ok .null
  | _, .string _, _, _, _, _, _, _ => nofun
  | _, .number _, _, _, _, _, _, hread => by
    obtain ⟨n, hn, -⟩ := Leaf.exists_writeNumber hread
    intro hnull
    cases hn.symm.trans hnull
  | _, .integer _, _, _, _, _, _, _ => nofun
  | _, .boolean _, _, _, _, _, _, _ => nofun
  | _, .regex _, _, _, _, _, _, _ => nofun
  | _, .optional _, _, h, _, _, _, _ => absurd trivial h
  | _, .nullable inner, h, hwraps, raw, v, hraw, hread => by
    rw [parse_nullable_of_ne (by simpa using hraw)] at hread
    obtain ⟨a, ha, rfl⟩ := map_eq_ok_iff.1 hread
    exact inner.serialize_ne_null h.1 hwraps raw a hraw ha
  | _, .array _, _, _, _, _, _, _ => map_ne_null nofun
  | _, .set _ _, _, _, _, _, _, _ => map_ne_null nofun
  | _, .distinct _ _, _, _, _, _, _, _ => map_ne_null nofun
  | _, .indexed _, _, _, _, _, _, _ => map_ne_null nofun
  | _, .mapOf _ _ _, _, _, _, _, _, _ => map_ne_null nofun
  | _, .tuple _, _, _, _, _, _, _ => map_ne_null nofun
  | _, .object _ _, _, _, _, _, _, _ => map_ne_null nofun

/-! ## Round trips -/

variable {α : Type}

/-- The value is written to data from which the same value is read. -/
def Restores (s : Shape σ α) (a : α) : Prop :=
  ∃ w b, s.serialize a = .ok w ∧ s.parse (some w) = .ok b ∧ s.Same a b

/-- In a field the value is written to data, or left out, so that the same value is read. -/
def RestoresField (s : Shape σ α) (a : α) : Prop :=
  ∃ written b, s.serializeField a = .ok written ∧ s.parse written = .ok b ∧ s.Same a b

structure RoundTrips (s : Shape σ α) : Prop where
  root : ∀ raw a, s.parse (some raw) = .ok a → s.Restores a
  field : ∀ input a, s.parse input = .ok a → s.RestoresField a

namespace RoundTrips

variable {inner element : Shape σ α}

/-- A shape that never leaves out a field need only restore its values. -/
theorem of_plain {s : Shape σ α} {write : α → Except SerializeError Json}
    (hplain : s.writer = .plain write) (h : ∀ input a, s.parse input = .ok a → s.Restores a) :
    s.RoundTrips where
  root raw := h (some raw)
  field input a ha := by
    obtain ⟨w, b, hw, hb, hab⟩ := h input a ha
    refine ⟨some w, b, ?_, hb, hab⟩
    rw [serialize, hplain] at hw
    rw [serializeField, hplain]
    exact map_eq_ok_iff.2 ⟨w, hw, rfl⟩

theorem string (coerces : Bool) : (string coerces : Shape σ String).RoundTrips :=
  of_plain rfl fun _ a _ ↦ ⟨.string a, a, rfl, by cases coerces <;> rfl, rfl⟩

theorem number (coerces : Bool) : (number coerces : Shape σ Double).RoundTrips := by
  refine of_plain rfl fun input x hread ↦ ?_
  obtain ⟨n, hn, hsame⟩ := Leaf.exists_writeNumber hread
  exact ⟨.number n, n.toDouble, hn, by cases coerces <;> rfl, hsame⟩

theorem integer (coerces : Bool) : (integer coerces : Shape σ Int64).RoundTrips :=
  of_plain rfl fun _ i _ ↦ ⟨_, i, rfl, Leaf.readInteger_writeInteger i, rfl⟩

theorem boolean (coerces : Bool) : (boolean coerces : Shape σ Bool).RoundTrips :=
  of_plain rfl fun _ b _ ↦ ⟨.bool b, b, rfl, by cases coerces <;> cases b <;> rfl, rfl⟩

theorem regex {ρ : Type} {engine : Regex.Engine ρ} (hflags : engine.RejectsRepeatedFlags) :
    (regex engine : Shape σ ρ).RoundTrips :=
  of_plain rfl fun _ r hread ↦
    ⟨_, r, rfl, Leaf.readRegex_writeRegex hflags (Leaf.compile_of_readRegex hread), rfl⟩

theorem optional (h : inner.RoundTrips) (hfits : ∀ input, (inner.parse input).Fits input)
    (hnull : ∀ a, inner.parse none = .ok a → ∃ b, inner.parse (some .null) = .ok b) :
    (optional inner).RoundTrips where
  root raw v hread := by
    cases v with
    | none =>
      obtain ⟨hvacant, hno⟩ := (parse_optional_eq_none_iff (hfits _)).1 hread
      obtain rfl : raw = .null := by simpa [IsVacant] using hvacant
      exact ⟨.null, none, rfl, hread, .none⟩
    | some a =>
      obtain ⟨w, b, hw, hb, hab⟩ := h.root raw a (parse_optional_eq_some_iff.1 hread)
      exact ⟨w, some b, hw, parse_optional_eq_some_iff.2 hb, .some hab⟩
  field input v hread := by
    cases v with
    | none =>
      obtain ⟨hvacant, hno⟩ := (parse_optional_eq_none_iff (hfits _)).1 hread
      refine ⟨none, none, rfl, (parse_optional_eq_none_iff (hfits _)).2 ⟨.inl rfl, ?_⟩, .none⟩
      rcases hvacant with rfl | rfl
      · exact hno
      · intro a ha
        obtain ⟨b, hb⟩ := hnull a ha
        exact hno b hb
    | some a =>
      obtain ⟨written, b, hw, hb, hab⟩ := h.field input a (parse_optional_eq_some_iff.1 hread)
      exact ⟨written, some b, hw, parse_optional_eq_some_iff.2 hb, .some hab⟩

/-- Of a value that is not a null no null must be written, which would be read as none. -/
theorem nullable (h : inner.RoundTrips) (hnone : ∀ a, inner.parse none ≠ .ok a)
    (hnull : ∀ raw a, raw ≠ .null → inner.parse (some raw) = .ok a →
      inner.serialize a ≠ .ok .null) : (nullable inner).RoundTrips := by
  refine of_plain rfl fun input v hread ↦ ?_
  by_cases hinput : input = some .null
  · subst hinput
    cases hread
    exact ⟨.null, none, rfl, rfl, .none⟩
  · rw [parse_nullable_of_ne hinput] at hread
    obtain ⟨a, ha, rfl⟩ := map_eq_ok_iff.1 hread
    cases input with
    | none => exact absurd ha (hnone a)
    | some raw =>
      obtain ⟨w, b, hw, hb, hab⟩ := h.root raw a ha
      have hwnull : some w ≠ some .null := by
        intro heq
        rw [Option.some.inj heq] at hw
        exact hnull raw a (by simpa using hinput) ha hw
      refine ⟨w, some b, hw, ?_, .some hab⟩
      rw [parse_nullable_of_ne hwnull]
      exact map_eq_ok_iff.2 ⟨b, hb, rfl⟩

/-! ### Elements -/

theorem restores_of_mem (h : element.RoundTrips) {items : List Json} {values : List α}
    (hread : List.Forall₂ (fun x a ↦ element.parse (some x) = .ok a) items values) :
    ∀ a ∈ values, element.Restores a := by
  intro a ha
  obtain ⟨x, -, hx⟩ := exists_of_forall₂_right hread a ha
  exact h.root x a hx

/-- Values that are restored are all written and read together. -/
theorem exists_elements {values : List α} (h : ∀ a ∈ values, element.Restores a) :
    ∃ xs others, element.writer.elements values = .ok (.array xs) ∧
      List.Forall₂ (fun x b ↦ element.parse (some x) = .ok b) xs others ∧
        List.Forall₂ element.Same values others := by
  obtain ⟨xs, others, hwrite, hread, hsame⟩ := exists_forall₂_forall₂ h
  refine ⟨xs, others, map_eq_ok_iff.2 ⟨xs, ?_, rfl⟩, hread, hsame⟩
  exact Writer.elementsFrom_eq_ok_iff.2 hwrite

section Elements

variable (h : element.RoundTrips) (hexplained : ∀ x, (element.parse (some x)).IsExplained)
include h hexplained

theorem array : (array element).RoundTrips := by
  refine of_plain rfl fun input values hread ↦ ?_
  obtain ⟨items, -, hitems⟩ := (parse_array_eq_ok_iff hexplained).1 hread
  obtain ⟨xs, others, hwrite, hreread, hsame⟩ := exists_elements (h.restores_of_mem hitems)
  exact ⟨.array xs, others, hwrite, (parse_array_eq_ok_iff hexplained).2 ⟨xs, rfl, hreread⟩, hsame⟩

theorem set {order : Ord α} (horder : IsOrderOf order element.Same) :
    (set order element).RoundTrips := by
  refine of_plain rfl fun input s hread ↦ ?_
  obtain ⟨items, values, -, hitems, rfl⟩ := (parse_set_eq_ok_iff hexplained).1 hread
  have := horder.trans
  obtain ⟨xs, others, hwrite, hreread, hsame⟩ := exists_elements fun a ha ↦
    h.restores_of_mem hitems a (SortedSet.mem_of_mem_ofList ha)
  have hascending : IsAscending others :=
    IsAscending.of_forall₂ SortedSet.ofList_wellFormed (hsame.imp fun a b ↦ (horder.eq_iff a b).2)
  refine ⟨.array xs, .ofList others, hwrite,
    (parse_set_eq_ok_iff hexplained).2 ⟨xs, others, rfl, hreread, rfl⟩, ?_⟩
  change List.Forall₂ element.Same _ (SortedSet.ofList others).elements
  rwa [SortedSet.ofList_of_isAscending hascending]

theorem distinct {equality : BEq α}
    (hequality : ∀ a b, equality.beq a b = true ↔ element.Same a b) :
    (distinct equality element).RoundTrips := by
  refine of_plain rfl fun input kept hread ↦ ?_
  obtain ⟨items, values, -, hitems, rfl⟩ := (parse_distinct_eq_ok_iff hexplained).1 hread
  obtain ⟨xs, others, hwrite, hreread, hsame⟩ := exists_elements fun a ha ↦
    h.restores_of_mem hitems a (Parts.mem_of_mem_dropRepeated a ha)
  have hper := element.same_isPartialEquivalence
  have hkeep : ∀ a b c d, element.Same a c → element.Same b d → (a == b) = false →
      (c == d) = false := by
    intro a b c d hac hbd hab
    refine Bool.eq_false_iff.2 fun hcd ↦ Bool.eq_false_iff.1 hab ((hequality a b).2 ?_)
    exact hper.trans hac (hper.trans ((hequality c d).1 hcd) (hper.symm hbd))
  have hdistinct : Parts.areDistinct others = true := by
    have hkept := Parts.areDistinct_iff_pairwise.1 (Parts.areDistinct_dropRepeated values)
    exact Parts.areDistinct_iff_pairwise.2 (pairwise_of_forall₂ hkeep hkept hsame)
  exact ⟨.array xs, others, hwrite, (parse_distinct_eq_ok_iff hexplained).2
    ⟨xs, others, rfl, hreread, (Parts.dropRepeated_eq_self_iff.2 hdistinct).symm⟩, hsame⟩

theorem indexed : (indexed element).RoundTrips := by
  refine of_plain rfl fun input map hread ↦ ?_
  obtain ⟨members, entries, -, hentries, rfl⟩ := (parse_indexed_eq_ok_iff hexplained).1 hread
  have hrestores : ∀ entry ∈ (SortedMap.ofList entries).entries,
      ∃ (member : String × Json) (other : String × α),
        (member.1 = entry.1 ∧ element.writer.serialize entry.2 = .ok member.2) ∧
        (other.1 = member.1 ∧ element.parse (some member.2) = .ok other.2) ∧
          (entry.1 = other.1 ∧ element.Same entry.2 other.2) := by
    intro entry hentry
    obtain ⟨member, -, -, hmember⟩ :=
      exists_of_forall₂_right hentries entry (SortedMap.mem_of_mem_ofList hentry)
    obtain ⟨w, b, hw, hb, hab⟩ := h.root _ _ hmember
    exact ⟨(entry.1, w), (entry.1, b), ⟨rfl, hw⟩, ⟨rfl, hb⟩, rfl, hab⟩
  obtain ⟨written, others, hwrite, hreread, hsame⟩ := exists_forall₂_forall₂ hrestores
  have hkeys : written.map Prod.fst = (SortedMap.ofList entries).keys :=
    map_fst_eq_of_forall₂ (hwrite.imp fun _ _ hmember ↦ hmember.1)
  have hwritten : IsAscending (written.map Prod.fst) := hkeys ▸ SortedMap.ofList_wellFormed
  have hothers : IsAscending (others.map Prod.fst) := by
    rwa [map_fst_eq_of_forall₂ (hreread.imp fun _ _ hother ↦ hother.1)]
  refine ⟨.object written, .ofList others, map_eq_ok_iff.2 ⟨written, ?_, ?_⟩,
    (parse_indexed_eq_ok_iff hexplained).2 ⟨written, others, rfl, hreread, rfl⟩, ?_⟩
  · exact Writer.membersOf_eq_ok_iff.2 hwrite
  · exact Json.ofMembers_of_isAscending hwritten
  · change List.Forall₂ _ _ (SortedMap.ofList others).entries
    rwa [SortedMap.ofList_of_isAscending hothers]

end Elements

theorem mapOf {κ ν : Type} {order : Ord κ} {key : Shape σ κ} {value : Shape σ ν}
    (hkey : key.RoundTrips) (hvalue : value.RoundTrips)
    (hkeys : ∀ x, (key.parse (some x)).IsExplained)
    (hvalues : ∀ x, (value.parse (some x)).IsExplained) (horder : IsOrderOf order key.Same) :
    (mapOf order key value).RoundTrips := by
  refine of_plain rfl fun input map hread ↦ ?_
  obtain ⟨items, entries, -, hentries, -, rfl⟩ := (parse_mapOf_eq_ok_iff hkeys hvalues).1 hread
  have := horder.trans
  have hrestores : ∀ entry ∈ (SortedMap.ofList entries).entries,
      ∃ (x : Json) (other : κ × ν),
        (∃ k v, x = .array [k, v] ∧ key.writer.serialize entry.1 = .ok k ∧
          value.writer.serialize entry.2 = .ok v) ∧
        (∃ k v, x = .array [k, v] ∧ key.parse (some k) = .ok other.1 ∧
          value.parse (some v) = .ok other.2) ∧
          (key.Same entry.1 other.1 ∧ value.Same entry.2 other.2) := by
    intro entry hentry
    obtain ⟨x, -, k, v, -, hk, hv⟩ :=
      exists_of_forall₂_right hentries entry (SortedMap.mem_of_mem_ofList hentry)
    obtain ⟨k', a, hwk, hrk, hsk⟩ := hkey.root _ _ hk
    obtain ⟨v', b, hwv, hrv, hsv⟩ := hvalue.root _ _ hv
    exact ⟨.array [k', v'], (a, b), ⟨k', v', rfl, hwk, hwv⟩, ⟨k', v', rfl, hrk, hrv⟩, hsk, hsv⟩
  obtain ⟨xs, others, hwrite, hreread, hsame⟩ := exists_forall₂_forall₂ hrestores
  have hequal : List.Forall₂ (fun a b ↦ compare a b = .eq) (SortedMap.ofList entries).keys
      (others.map Prod.fst) := by
    refine List.forall₂_map_left_iff.2 (List.forall₂_map_right_iff.2 (hsame.imp fun a b hab ↦ ?_))
    exact (horder.eq_iff _ _).2 hab.1
  have hascending : IsAscending (others.map Prod.fst) :=
    IsAscending.of_forall₂ SortedMap.ofList_wellFormed hequal
  have hnew : SortedMap.empty.AreNew others := SortedMap.areNew_of_isAscending hascending
  refine ⟨.array xs, .ofList others, map_eq_ok_iff.2 ⟨xs, ?_, rfl⟩,
    (parse_mapOf_eq_ok_iff hkeys hvalues).2 ⟨xs, others, rfl, hreread, hnew, rfl⟩, ?_⟩
  · exact Writer.pairsFrom_eq_ok_iff.2 hwrite
  · change List.Forall₂ _ _ (SortedMap.ofList others).entries
    rwa [SortedMap.ofList_of_isAscending hascending]

end RoundTrips

end Shape

/-! ### Positions -/

namespace Shapes

/-- Tuples that are read are written, and the same tuple is read from that. -/
def RoundTrips {αs : List Type} (items : Shapes σ αs) : Prop :=
  ∀ raw values, items.Reads raw values → ∃ xs others, (∀ i, items.serializeFrom i values = .ok xs) ∧
    items.Reads xs others ∧ items.Same values others

theorem RoundTrips.nil : (nil : Shapes σ []).RoundTrips :=
  fun _ _ _ ↦ ⟨[], (), fun _ ↦ rfl, .nil, trivial⟩

theorem RoundTrips.cons {α : Type} {αs : List Type} {first : Shape σ α} {rest : Shapes σ αs}
    (hfirst : first.RoundTrips) (hrest : rest.RoundTrips) : (cons first rest).RoundTrips := by
  intro _ _ hread
  cases hread with
  | cons ha hvalues =>
    obtain ⟨x, b, hx, hb, hab⟩ := hfirst.root _ _ ha
    obtain ⟨xs, others, hxs, hothers, hsame⟩ := hrest _ _ hvalues
    refine ⟨x :: xs, (b, others), fun i ↦ ?_, .cons hb hothers, hab, hsame⟩
    exact bind_bind_eq_ok_iff.2 ⟨x, xs, mapError_eq_ok_iff.2 hx, hxs (i + 1), rfl⟩

end Shapes

theorem Shape.RoundTrips.tuple {αs : List Type} {items : Shapes σ αs} (h : items.RoundTrips) :
    (Shape.tuple items).RoundTrips := by
  refine of_plain rfl fun input values hread ↦ ?_
  obtain ⟨raw, -, hraw⟩ := parse_tuple_eq_ok_iff.1 hread
  obtain ⟨xs, others, hxs, hothers, hsame⟩ := h raw values hraw
  exact ⟨.array xs, others, map_eq_ok_iff.2 ⟨xs, hxs 0, rfl⟩,
    parse_tuple_eq_ok_iff.2 ⟨xs, rfl, hothers⟩, hsame⟩

/-! ### Fields -/

namespace Fields

/-- A record of slots that were read is written to members of the fields, and the same slots are
read from all members that look like those. -/
def RoundTrips (fields : Fields σ) : Prop :=
  ∀ members slots record, fields.Reads members slots →
    (∀ slot ∈ slots, record.slot? slot.1 = some slot.2) →
      ∃ written, fields.serialize record = .ok written ∧
        (written.map Prod.fst).Sublist fields.names ∧
        ∀ members', (∀ name ∈ fields.names, members'.lookup name = written.lookup name) →
          ∃ others, fields.Reads members' others ∧ fields.Same slots others

theorem RoundTrips.nil : (nil : Fields σ).RoundTrips := by
  intro members slots record hread _
  obtain rfl := reads_nil_iff.1 hread
  exact ⟨[], rfl, .slnil, fun _ _ ↦ ⟨[], reads_nil_iff.2 rfl, rfl, rfl⟩⟩

theorem RoundTrips.cons {α : Type} {name : String} {type : SlotType σ α} {shape : Shape σ α}
    {rest : Fields σ} (hname : name ∉ rest.names) (hshape : shape.RoundTrips)
    (hrest : rest.RoundTrips) : (cons name type shape rest).RoundTrips := by
  intro members slots record hread hslots
  obtain ⟨a, slots, ha, hreads, rfl⟩ := reads_cons_iff.1 hread
  obtain ⟨hslot, hslots⟩ := List.forall_mem_cons.1 hslots
  obtain ⟨x, b, hx, hb, hab⟩ := hshape.field _ a ha
  obtain ⟨xs, hxs, hkeys, hreread⟩ := hrest members slots record hreads hslots
  have habsent : xs.lookup name = none :=
    lookup_eq_none_iff_notMem.2 fun hmem ↦ hname (hkeys.subset hmem)
  refine ⟨(x.map (name, ·)).toList ++ xs, ?_, ?_, fun members' hmembers ↦ ?_⟩
  · exact serialize_cons_of_slot hslot hx hxs
  · cases x with
    | none => exact hkeys.cons name
    | some x => exact hkeys.cons_cons name
  · obtain ⟨hfirst, hothers⟩ := List.forall_mem_cons.1 hmembers
    have hfirst' : members'.lookup name = x := by
      rw [hfirst]
      cases x <;> simp [habsent]
    obtain ⟨others, hreads', hsame⟩ := hreread members' fun other hother ↦ by
      have hne : other ≠ name := fun heq ↦ hname (heq ▸ hother)
      rw [hothers other hother]
      cases x with
      | none => rfl
      | some x => exact lookup_cons_of_ne hne
    exact ⟨_, reads_cons_iff.2 ⟨b, others, hfirst' ▸ hb, hreads', rfl⟩, a, b, slots, others, hab,
      hsame, rfl, rfl⟩

end Fields

theorem Shape.RoundTrips.object {fields : Fields σ} {denyUnknown : Bool} (h : fields.RoundTrips)
    (hnames : fields.names.Nodup)
    (hexplained : fields.All fun s ↦ ∀ input, (s.parse input).IsExplained) :
    (Shape.object fields denyUnknown).RoundTrips := by
  refine of_plain rfl fun input record hread ↦ ?_
  obtain ⟨members, -, -, hreads⟩ := (parse_object_eq_ok_iff hnames hexplained).1 hread
  obtain ⟨written, hwritten, hkeys, hreread⟩ :=
    h members record.fields record hreads (hreads.slot?_eq hnames)
  have hnodup : (written.map Prod.fst).Nodup := hnames.sublist hkeys
  obtain ⟨others, hothers, hsame⟩ := hreread _ fun name _ ↦ SortedMap.lookup_ofList hnodup name
  refine ⟨.ofMembers written, ⟨others⟩, map_eq_ok_iff.2 ⟨written, hwritten, rfl⟩,
    (parse_object_eq_ok_iff hnames hexplained).2 ⟨_, rfl, fun _ member hmember ↦ ?_, hothers⟩,
    hsame⟩
  exact hkeys.subset (List.mem_map_of_mem (SortedMap.mem_of_mem_ofList hmember))

/-! ### All shapes -/

mutual

theorem Shape.roundTrips : {α : Type} → (s : Shape σ α) → s.IsReversible → s.RoundTrips
  | _, .string coerces, _ => .string coerces
  | _, .number coerces, _ => .number coerces
  | _, .integer coerces, _ => .integer coerces
  | _, .boolean coerces, _ => .boolean coerces
  | _, .regex _, h => .regex h
  | _, .optional inner, h =>
    .optional (inner.roundTrips h) (inner.parse_fits (inner.isStandard h)) fun _ ↦
      inner.exists_parse_null_of_parse_none h
  | _, .nullable inner, h =>
    .nullable (inner.roundTrips h.1) (inner.parse_none_ne_ok h.1 h.2)
      (inner.serialize_ne_null h.1 h.2)
  | _, .array element, h => .array (element.roundTrips h) (element.isExplained_parse_some h)
  | _, .set _ element, h =>
    .set (element.roundTrips h.1) (element.isExplained_parse_some h.1) h.2
  | _, .distinct _ element, h =>
    .distinct (element.roundTrips h.1) (element.isExplained_parse_some h.1) h.2
  | _, .indexed value, h => .indexed (value.roundTrips h) (value.isExplained_parse_some h)
  | _, .mapOf _ key value, h =>
    .mapOf (key.roundTrips h.1) (value.roundTrips h.2.1) (key.isExplained_parse_some h.1)
      (value.isExplained_parse_some h.2.1) h.2.2
  | _, .tuple items, h => .tuple (items.roundTrips h)
  | _, .object fields _, h =>
    .object (fields.roundTrips h.1 h.2) h.2 (fields.all_isExplained (fields.isStandard h.1))

theorem Shapes.roundTrips : {αs : List Type} → (items : Shapes σ αs) → items.IsReversible →
    items.RoundTrips
  | _, .nil, _ => .nil
  | _, .cons first rest, h => .cons (first.roundTrips h.1) (rest.roundTrips h.2)

theorem Fields.roundTrips : (fields : Fields σ) → fields.IsReversible → fields.names.Nodup →
    fields.RoundTrips
  | .nil, _, _ => .nil
  | .cons _ _ shape rest, h, hnames =>
    .cons (List.nodup_cons.1 hnames).1 (shape.roundTrips h.1)
      (rest.roundTrips h.2 (List.nodup_cons.1 hnames).2)

end

/-! ## Schemas -/

/-- Whatever a schema reads, alone or in a field, it writes to what it reads as the same value. -/
theorem Schema.rereads_of_isReversible {α : Type} {s : Schema σ α} (h : s.shape.IsReversible) :
    (∀ raw v, s.parse raw = .ok v →
      ∃ w v', s.serialize v = .ok w ∧ s.parse w = .ok v' ∧ s.shape.Same v v') ∧
      ∀ input v, s.parseInput input = .ok v → ∃ written v',
        s.serializeField v = .ok written ∧ s.parseInput written = .ok v' ∧ s.shape.Same v v' :=
  ⟨(s.shape.roundTrips h).root, (s.shape.roundTrips h).field⟩

/-- A schema that was built from fields of reversible shapes is reversible. -/
theorem ObjectBuilder.IsConsistent.isReversible {b : ObjectBuilder σ} {s : Schema σ (Record σ)}
    (h : b.IsConsistent) (hs : b.build = .ok s) (hfields : b.fields.IsReversible) :
    s.shape.IsReversible := by
  obtain ⟨hnames, rfl⟩ := h.build_eq_ok_iff.1 hs
  exact ⟨hfields, hnames.2⟩

namespace Schema

/-- Ranges of numbers, either end of which can be left out. -/
def rangeBuilder : ObjectBuilder (Option Double) :=
  ((ObjectBuilder.empty.field "least" (.self _ "f64") number.optional).field "greatest"
    (.self _ "f64") number.optional).denyUnknownFields

theorem rangeBuilder_isConsistent : rangeBuilder.IsConsistent :=
  ((ObjectBuilder.isConsistent_empty.field _ _ _).field _ _ _).denyUnknownFields

def rangeSchema : Schema (Option Double) (Record (Option Double)) :=
  ⟨.object rangeBuilder.fields true, none⟩

/-- Years, ranges by their labels, limits and, unless it is null, a pattern. -/
def surveySchema : Schema (Option Double)
    (Tuple [SortedSet Int64, SortedMap String (Record (Option Double)), List Double,
      Option Regex]) :=
  tuple (.cons integer.set.shape (.cons (mapOf string rangeSchema).shape
    (.cons number.distinct.shape (.cons regex.nullable.shape .nil))))

/-- Two years, no ranges, one limit and no pattern. -/
def survey : Json :=
  .array [.array [.number (.ofInt64 2001), .number (.ofInt64 1999)], .array [],
    .array [.number (.ofInt64 3)], .null]

theorem survey_rereads :
    rangeBuilder.build = .ok rangeSchema ∧ surveySchema.shape.IsReversible ∧
      (∃ v, surveySchema.parse survey = .ok v) ∧
      (∀ raw v, surveySchema.parse raw = .ok v → ∃ w v', surveySchema.serialize v = .ok w ∧
        surveySchema.parse w = .ok v' ∧ surveySchema.shape.Same v v') ∧
      ∀ input v, surveySchema.parseInput input = .ok v → ∃ written v',
        surveySchema.serializeField v = .ok written ∧
          surveySchema.parseInput written = .ok v' ∧ surveySchema.shape.Same v v' :=
  have hrange := rangeBuilder_isConsistent.isReversible (s := rangeSchema) rfl
    ⟨trivial, trivial, trivial⟩
  have hsurvey : surveySchema.shape.IsReversible :=
    ⟨⟨trivial, .of_isDiscrete trivial⟩, ⟨trivial, hrange, .of_isDiscrete trivial⟩,
      ⟨trivial, fun _ _ ↦ .rfl⟩, ⟨Regex.engine_rejectsRepeatedFlags, id⟩, trivial⟩
  ⟨rfl, hsurvey, ⟨_, rfl⟩, rereads_of_isReversible hsurvey⟩

end Schema

end TwoWaySchema
