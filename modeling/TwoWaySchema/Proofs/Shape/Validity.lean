import TwoWaySchema.Proofs.ObjectBuilder
import TwoWaySchema.Proofs.Shape.Patterns
import TwoWaySchema.Proofs.Shape.Reading

/-!
# Validity of what was read

What a shape has read it accepts as valid, if it is put together from scalars by refinements,
optional, nullable, unions and containers.  Reading and checking are two recursions, and both ask
every refinement on their way.  A scalar is checked by reading again what is written for it, which
need not give the same value: it is enough that it gives one.  Of the orders and equalities of sets
and maps nothing is asked.
-/

namespace TwoWaySchema

variable {σ : Type}

mutual

/-- A shape put together from scalars by refinements, optional, nullable, unions and containers.
The engine of its regular expressions takes no flag twice in a group. -/
def Shape.IsRefined : {α : Type} → Shape σ α → Prop
  | _, .string _ => True
  | _, .number _ => True
  | _, .integer _ => True
  | _, .boolean _ => True
  | _, .datetime => True
  | _, .regex engine => engine.RejectsRepeatedFlags
  | _, .optional inner => inner.IsRefined
  | _, .nullable inner => inner.IsRefined
  | _, .refine inner _ _ => inner.IsRefined
  | _, .union first second => first.IsRefined ∧ second.IsRefined
  | _, .array element => element.IsRefined
  | _, .set _ element => element.IsRefined
  | _, .distinct _ element => element.IsRefined
  | _, .indexed value => value.IsRefined
  | _, .mapOf _ key value => key.IsRefined ∧ value.IsRefined
  | _, .tuple items => items.IsRefined
  | _, .object fields _ => fields.IsRefined ∧ fields.names.Nodup
  | _, _ => False

def Shapes.IsRefined : {αs : List Type} → Shapes σ αs → Prop
  | _, .nil => True
  | _, .cons first rest => first.IsRefined ∧ rest.IsRefined

def Fields.IsRefined : Fields σ → Prop
  | .nil => True
  | .cons _ _ shape rest => shape.IsRefined ∧ rest.IsRefined

end

/-- Coercion changes scalars only, so it keeps a shape refined. -/
theorem Shape.isRefined_coerce : {α : Type} → (s : Shape σ α) → s.IsRefined → s.coerce.IsRefined
  | _, .string _, _ | _, .number _, _ | _, .integer _, _ | _, .boolean _, _ => trivial
  | _, .datetime, _ => trivial
  | _, .optional inner, h => inner.isRefined_coerce h
  | _, .nullable inner, h => inner.isRefined_coerce h
  | _, .refine inner _ _, h => inner.isRefined_coerce h
  | _, .union first second, h =>
    ⟨first.isRefined_coerce h.1, second.isRefined_coerce h.2⟩
  | _, .regex _, h | _, .array _, h | _, .set _ _, h | _, .distinct _ _, h => h
  | _, .indexed _, h | _, .mapOf _ _ _, h | _, .tuple _, h | _, .object _ _, h => h

/-! ## Failures -/

theorem Shape.parse_optional_isExplained {α : Type} {inner : Shape σ α} {input : Option Json}
    (h : (inner.parse input).IsExplained) : ((optional inner).parse input).IsExplained := by
  intro failure hfailure
  cases hinner : inner.parse input with
  | ok a =>
    rw [parse_optional_of_ok hinner] at hfailure
    cases hfailure
  | error f =>
    rw [parse_optional_of_error hinner] at hfailure
    split at hfailure
    next => cases hfailure
    next => exact Except.error.inj hfailure ▸ h f hinner

theorem Shape.parse_refine_isExplained {α : Type} {inner : Shape σ α} {accepts : α → Bool}
    {message : String} {input : Option Json} (h : (inner.parse input).IsExplained) :
    ((refine inner accepts message).parse input).IsExplained := by
  rw [parse_refine]
  refine h.bind fun a ↦ ?_
  split
  next => exact fun _ hfailure ↦ by cases hfailure
  next =>
    rintro _ ⟨⟩
    exact List.cons_ne_nil _ _

mutual

/-- Every failure of a refined shape names an error.  A refinement has an error of its own, so the
failures need not fit their inputs as those of a standard shape do. -/
theorem Shape.parse_isExplained : {α : Type} → (s : Shape σ α) → s.IsRefined →
    (input : Option Json) → (s.parse input).IsExplained
  | _, .string _, _, _ => Leaf.readString_fits.isExplained
  | _, .number _, _, _ => Leaf.readNumber_fits.isExplained
  | _, .integer _, _, _ => Leaf.readInteger_fits.isExplained
  | _, .boolean _, _, _ => Leaf.readBoolean_fits.isExplained
  | _, .datetime, _, _ => Leaf.readDatetime_fits.isExplained
  | _, .regex _, _, _ => Leaf.readRegex_fits.isExplained
  | _, .optional inner, h, input =>
    Shape.parse_optional_isExplained (inner.parse_isExplained h input)
  | _, .nullable inner, h, input => by
    by_cases hnull : input = some .null
    · subst hnull
      exact fun _ hfailure ↦ by cases hfailure
    · rw [Shape.parse_nullable_of_ne hnull]
      exact (inner.parse_isExplained h input).map some
  | _, .refine inner _ _, h, input =>
    Shape.parse_refine_isExplained (inner.parse_isExplained h input)
  | _, .union _ _, _, _ => Parts.readEither_isExplained
  | _, .array _, _, _ => Shape.parse_array_fits.isExplained
  | _, .set _ _, _, _ => Shape.parse_set_fits.isExplained
  | _, .distinct _ _, _, _ => Shape.parse_distinct_fits.isExplained
  | _, .indexed _, _, _ => Shape.parse_indexed_fits.isExplained
  | _, .mapOf _ _ _, _, _ => Shape.parse_mapOf_fits.isExplained
  | _, .tuple items, h, _ =>
    (Shape.parse_tuple_fits (items.all_parse_isExplained h)).isExplained
  | _, .object _ _, _, _ => Shape.parse_object_fits.isExplained

theorem Shapes.all_parse_isExplained : {αs : List Type} → (items : Shapes σ αs) →
    items.IsRefined → items.All fun s ↦ ∀ input, (s.parse input).IsExplained
  | _, .nil, _ => trivial
  | _, .cons first rest, h =>
    ⟨first.parse_isExplained h.1,
      rest.all_parse_isExplained h.2⟩

end

theorem Shape.parse_some_isExplained {α : Type} (s : Shape σ α) (h : s.IsRefined) (x : Json) :
    (s.parse (some x)).IsExplained :=
  s.parse_isExplained h (some x)

theorem Fields.all_parse_isExplained : (fields : Fields σ) → fields.IsRefined →
    fields.All fun s ↦ ∀ input, (s.parse input).IsExplained
  | .nil, _ => trivial
  | .cons _ _ shape rest, h => ⟨shape.parse_isExplained h.1, rest.all_parse_isExplained h.2⟩

/-! ## Valid values -/

namespace Shape

variable {α : Type}

/-- Every value that the shape reads, be it from nothing, is valid. -/
def ReadsValid (s : Shape σ α) : Prop :=
  ∀ input a, s.parse input = .ok a → s.check a = true

theorem reparses_of_serialize {s : Shape σ α} {a : α} {w : Json} (hw : s.serialize a = .ok w)
    (hread : ∃ b, s.parse (some w) = .ok b) : s.reparses a = true := by
  unfold reparses
  rw [hw]
  exact isOk_iff.2 hread

namespace ReadsValid

variable {inner first second element : Shape σ α}

/-! ### Scalars -/

theorem string (coerces : Bool) : (string coerces : Shape σ String).ReadsValid :=
  fun _ a _ ↦ reparses_of_serialize (w := .string a) rfl ⟨a, by cases coerces <;> rfl⟩

theorem number (coerces : Bool) : (number coerces : Shape σ Double).ReadsValid := by
  intro input x hread
  obtain ⟨n, hn, -⟩ := Leaf.exists_writeNumber hread
  exact reparses_of_serialize hn ⟨n.toDouble, by cases coerces <;> rfl⟩

theorem integer (coerces : Bool) : (integer coerces : Shape σ Int64).ReadsValid :=
  fun _ i _ ↦ reparses_of_serialize (w := Leaf.writeInteger i) rfl
    ⟨i, Leaf.readInteger_writeInteger i⟩

theorem boolean (coerces : Bool) : (boolean coerces : Shape σ Bool).ReadsValid :=
  fun _ b _ ↦ reparses_of_serialize (w := .bool b) rfl ⟨b, by cases coerces <;> cases b <;> rfl⟩

theorem datetime : (datetime : Shape σ Timestamp).ReadsValid :=
  fun _ t hread ↦ reparses_of_serialize (w := Leaf.writeDatetime t) rfl
    (Leaf.exists_readDatetime_writeDatetime hread)

theorem regex {ρ : Type} {engine : Regex.Engine ρ} (hflags : engine.RejectsRepeatedFlags) :
    (regex engine : Shape σ ρ).ReadsValid :=
  fun _ r hread ↦ reparses_of_serialize (w := Leaf.writeRegex engine r) rfl
    ⟨r, Leaf.readRegex_writeRegex hflags (Leaf.compile_of_readRegex hread)⟩

/-! ### Wrappers -/

theorem optional (h : inner.ReadsValid) : (optional inner).ReadsValid := by
  intro input v hread
  cases v with
  | none => rfl
  | some a => exact h input a (parse_optional_eq_some_iff.1 hread)

theorem nullable (h : inner.ReadsValid) : (nullable inner).ReadsValid := by
  intro input v hread
  by_cases hnull : input = some .null
  · subst hnull
    cases hread
    rfl
  · rw [parse_nullable_of_ne hnull] at hread
    obtain ⟨a, ha, rfl⟩ := map_eq_ok_iff.1 hread
    exact h input a ha

/-- Reading and checking ask the same predicate. -/
theorem refine {accepts : α → Bool} {message : String} (h : inner.ReadsValid) :
    (refine inner accepts message).ReadsValid := by
  intro input a hread
  rw [parse_refine] at hread
  obtain ⟨b, hb, hread⟩ := bind_eq_ok_iff.1 hread
  split at hread
  next haccepts =>
    cases hread
    exact Bool.and_eq_true_iff.2 ⟨haccepts, h input a hb⟩
  next => cases hread

/-- A value is valid by the alternative that read it. -/
theorem union (hfirst : first.ReadsValid) (hsecond : second.ReadsValid) :
    (union first second).ReadsValid := by
  intro input a hread
  apply Bool.or_eq_true_iff.2
  rcases Parts.readEither_eq_ok hread with hread | hread
  · exact .inl (hfirst input a hread)
  · exact .inr (hsecond input a hread)

/-! ### Elements -/

/-- The elements that were read are valid, and so are those that a set keeps. -/
theorem forall_mem (h : element.ReadsValid) {items : List Json} {values kept : List α}
    (hread : List.Forall₂ (fun x a ↦ element.parse (some x) = .ok a) items values)
    (hkept : ∀ a ∈ kept, a ∈ values) : kept.all element.check = true := by
  apply List.all_eq_true.2
  intro a ha
  obtain ⟨x, -, hx⟩ := exists_of_forall₂_right hread a (hkept a ha)
  exact h (some x) a hx

section Elements

variable (h : element.ReadsValid) (hexplained : ∀ x, (element.parse (some x)).IsExplained)
include h hexplained

theorem array : (array element).ReadsValid := by
  intro input values hread
  obtain ⟨items, -, hitems⟩ := (parse_array_eq_ok_iff hexplained).1 hread
  exact h.forall_mem hitems fun _ ↦ id

theorem set {order : Ord α} : (set order element).ReadsValid := by
  intro input s hread
  obtain ⟨items, values, -, hitems, rfl⟩ := (parse_set_eq_ok_iff hexplained).1 hread
  exact h.forall_mem hitems fun _ ↦ SortedSet.mem_of_mem_ofList

/-- What is left when repeated elements are dropped has none, however equality is defined. -/
theorem distinct {equality : BEq α} : (distinct equality element).ReadsValid := by
  intro input kept hread
  obtain ⟨items, values, -, hitems, rfl⟩ := (parse_distinct_eq_ok_iff hexplained).1 hread
  exact Bool.and_eq_true_iff.2 ⟨Parts.areDistinct_dropRepeated values,
    h.forall_mem hitems Parts.mem_of_mem_dropRepeated⟩

theorem indexed : (indexed element).ReadsValid := by
  intro input map hread
  obtain ⟨members, entries, -, hentries, rfl⟩ := (parse_indexed_eq_ok_iff hexplained).1 hread
  apply List.all_eq_true.2
  intro entry hentry
  obtain ⟨member, -, -, hmember⟩ :=
    exists_of_forall₂_right hentries entry (SortedMap.mem_of_mem_ofList hentry)
  exact h _ _ hmember

end Elements

theorem mapOf {κ ν : Type} {order : Ord κ} {key : Shape σ κ} {value : Shape σ ν}
    (hkey : key.ReadsValid) (hvalue : value.ReadsValid)
    (hkeys : ∀ x, (key.parse (some x)).IsExplained)
    (hvalues : ∀ x, (value.parse (some x)).IsExplained) :
    (mapOf order key value).ReadsValid := by
  intro input map hread
  obtain ⟨items, entries, -, hentries, -, rfl⟩ := (parse_mapOf_eq_ok_iff hkeys hvalues).1 hread
  apply List.all_eq_true.2
  intro entry hentry
  obtain ⟨x, -, k, v, -, hk, hv⟩ :=
    exists_of_forall₂_right hentries entry (SortedMap.mem_of_mem_ofList hentry)
  exact Bool.and_eq_true_iff.2 ⟨hkey _ _ hk, hvalue _ _ hv⟩

end ReadsValid

end Shape

/-! ### Positions -/

/-- Every tuple that is read from items is valid. -/
def Shapes.ReadsValid {αs : List Type} (items : Shapes σ αs) : Prop :=
  ∀ raw values, items.Reads raw values → items.check values = true

theorem Shapes.ReadsValid.nil : (nil : Shapes σ []).ReadsValid :=
  fun _ _ _ ↦ rfl

theorem Shapes.ReadsValid.cons {α : Type} {αs : List Type} {first : Shape σ α}
    {rest : Shapes σ αs} (hfirst : first.ReadsValid) (hrest : rest.ReadsValid) :
    (cons first rest).ReadsValid := by
  intro raw values hread
  cases hread with
  | cons ha hvalues => exact Bool.and_eq_true_iff.2 ⟨hfirst _ _ ha, hrest _ _ hvalues⟩

theorem Shape.ReadsValid.tuple {αs : List Type} {items : Shapes σ αs} (h : items.ReadsValid) :
    (Shape.tuple items).ReadsValid := by
  intro input values hread
  obtain ⟨raw, -, hraw⟩ := parse_tuple_eq_ok_iff.1 hread
  exact h raw values hraw

/-! ### Fields -/

/-- Every record that holds the slots that were read is valid.  No field is absent from it, so none
is asked to read an absent value. -/
def Fields.ReadsValid (fields : Fields σ) : Prop :=
  ∀ members slots record, fields.Reads members slots →
    (∀ slot ∈ slots, record.slot? slot.1 = some slot.2) → fields.check record = true

theorem Fields.ReadsValid.nil : (nil : Fields σ).ReadsValid :=
  fun _ _ _ _ _ ↦ rfl

theorem Fields.ReadsValid.cons {α : Type} {name : String} {type : SlotType σ α}
    {shape : Shape σ α} {rest : Fields σ} (hshape : shape.ReadsValid) (hrest : rest.ReadsValid) :
    (cons name type shape rest).ReadsValid := by
  intro members slots record hread hslots
  obtain ⟨a, slots, ha, hreads, rfl⟩ := reads_cons_iff.1 hread
  obtain ⟨hslot, hslots⟩ := List.forall_mem_cons.1 hslots
  have hcheck : (type.get? (type.put a)).any shape.check = true := by
    rw [SlotType.get?_put]
    exact hshape _ a ha
  rw [check, hslot]
  exact Bool.and_eq_true_iff.2 ⟨hcheck, hrest members slots record hreads hslots⟩

theorem Shape.ReadsValid.object {fields : Fields σ} {denyUnknown : Bool} (h : fields.ReadsValid)
    (hnames : fields.names.Nodup)
    (hexplained : fields.All fun s ↦ ∀ input, (s.parse input).IsExplained) :
    (Shape.object fields denyUnknown).ReadsValid := by
  intro input record hread
  obtain ⟨members, -, -, hreads⟩ := (parse_object_eq_ok_iff hnames hexplained).1 hread
  exact h members record.fields record hreads (hreads.slot?_eq hnames)

/-! ### All shapes -/

mutual

theorem Shape.readsValid : {α : Type} → (s : Shape σ α) → s.IsRefined → s.ReadsValid
  | _, .string coerces, _ => .string coerces
  | _, .number coerces, _ => .number coerces
  | _, .integer coerces, _ => .integer coerces
  | _, .boolean coerces, _ => .boolean coerces
  | _, .datetime, _ => .datetime
  | _, .regex _, h => .regex h
  | _, .optional inner, h => .optional (inner.readsValid h)
  | _, .nullable inner, h => .nullable (inner.readsValid h)
  | _, .refine inner _ _, h => .refine (inner.readsValid h)
  | _, .union first second, h => .union (first.readsValid h.1) (second.readsValid h.2)
  | _, .array element, h => .array (element.readsValid h) (element.parse_some_isExplained h)
  | _, .set _ element, h => .set (element.readsValid h) (element.parse_some_isExplained h)
  | _, .distinct _ element, h => .distinct (element.readsValid h) (element.parse_some_isExplained h)
  | _, .indexed value, h => .indexed (value.readsValid h) (value.parse_some_isExplained h)
  | _, .mapOf _ key value, h =>
    .mapOf (key.readsValid h.1) (value.readsValid h.2) (key.parse_some_isExplained h.1)
      (value.parse_some_isExplained h.2)
  | _, .tuple items, h => .tuple (items.readsValid h)
  | _, .object fields _, h =>
    .object (fields.readsValid h.1) h.2 (fields.all_parse_isExplained h.1)

theorem Shapes.readsValid : {αs : List Type} → (items : Shapes σ αs) → items.IsRefined →
    items.ReadsValid
  | _, .nil, _ => .nil
  | _, .cons first rest, h => .cons (first.readsValid h.1) (rest.readsValid h.2)

theorem Fields.readsValid : (fields : Fields σ) → fields.IsRefined → fields.ReadsValid
  | .nil, _ => .nil
  | .cons _ _ shape rest, h => .cons (shape.readsValid h.1) (rest.readsValid h.2)

end

/-! ## Schemas -/

/-- Whatever a schema reads, be it from nothing, it accepts as valid. -/
theorem Schema.validate_of_isRefined {α : Type} {s : Schema σ α} (h : s.shape.IsRefined)
    {input : Option Json} {v : α} (hv : s.parseInput input = .ok v) : s.validate v = true :=
  s.shape.readsValid h input v hv

/-- A schema that was built from fields of refined shapes is refined. -/
theorem ObjectBuilder.IsConsistent.isRefined {b : ObjectBuilder σ} {s : Schema σ (Record σ)}
    (h : b.IsConsistent) (hs : b.build = .ok s) (hfields : b.fields.IsRefined) :
    s.shape.IsRefined := by
  obtain ⟨hnames, rfl⟩ := h.build_eq_ok_iff.1 hs
  exact ⟨hfields, hnames.2⟩

namespace Schema

def positiveSchema : Schema (Option (List Int64)) Int64 :=
  integer.coerce.refine (fun i ↦ 0 < i) "must be positive"

/-- At most two sizes, none of them repeated, and counts of spare parts, which can be left out. -/
def orderBuilder : ObjectBuilder (Option (List Int64)) :=
  (ObjectBuilder.empty.field "sizes" (.self _ "Vec<i64>")
    (positiveSchema.distinct.refine (fun sizes ↦ sizes.length ≤ 2) "too many sizes").nullable).field
      "spares" (.self _ "Vec<i64>") (positiveSchema.array.or integer.distinct).optional

theorem orderBuilder_isConsistent : orderBuilder.IsConsistent :=
  (ObjectBuilder.isConsistent_empty.field _ _ _).field _ _ _

def orderSchema : Schema (Option (List Int64)) (Record (Option (List Int64))) :=
  ⟨.object orderBuilder.fields false, none⟩

/-- A size comes twice here, once as a text. -/
def repeatedSize : Json :=
  .object [("sizes", .array [.string "1", .number (.ofInt64 1), .number (.ofInt64 2)])]

theorem orderSchema_validate_repeatedSize :
    orderBuilder.build = .ok orderSchema ∧ orderSchema.shape.IsRefined ∧
      orderSchema.parseInput (some repeatedSize) =
        .ok ⟨[("sizes", some [1, 2]), ("spares", none)]⟩ ∧
      orderSchema.validate ⟨[("sizes", some [1, 2]), ("spares", none)]⟩ = true := by
  have hbuild : orderBuilder.build = .ok orderSchema := rfl
  have hrefined : orderSchema.shape.IsRefined :=
    orderBuilder_isConsistent.isRefined hbuild ⟨trivial, ⟨trivial, trivial⟩, trivial⟩
  have hread : orderSchema.parseInput (some repeatedSize) =
      .ok ⟨[("sizes", some [1, 2]), ("spares", none)]⟩ := rfl
  exact ⟨hbuild, hrefined, hread, validate_of_isRefined hrefined hread⟩

end Schema

end TwoWaySchema
