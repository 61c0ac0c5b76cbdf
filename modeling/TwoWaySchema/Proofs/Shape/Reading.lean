import TwoWaySchema.Proofs.Leaf
import TwoWaySchema.Proofs.Parts
import TwoWaySchema.Shape.Parse

/-!
# What shapes read

Each shape reads in terms of what the shapes inside it read.  A shape that is put together without
functions of the user's choice has failures that fit its inputs: they name an error, and they say
that a value is missing exactly where there is none or only a null.
-/

namespace TwoWaySchema

variable {σ : Type}

/-! ## Tuples -/

namespace Shapes

/-- All shapes of a tuple have the property. -/
def All (p : {α : Type} → Shape σ α → Prop) : {αs : List Type} → Shapes σ αs → Prop
  | _, nil => True
  | _, cons first rest => p first ∧ rest.All p

/-- The items are read to the components of the tuple, position by position. -/
inductive Reads : {αs : List Type} → Shapes σ αs → List Json → Tuple αs → Prop
  | nil : Reads .nil [] ()
  | cons {α : Type} {αs : List Type} {first : Shape σ α} {rest : Shapes σ αs} {x : Json} {a : α}
      {raw : List Json} {values : Tuple αs} (h : first.parse (some x) = .ok a)
      (hrest : Reads rest raw values) : Reads (.cons first rest) (x :: raw) (a, values)

theorem parseFrom_cons {α : Type} {αs : List Type} {first : Shape σ α} {rest : Shapes σ αs}
    {i : Nat} {x : Json} {raw : List Json} :
    (cons first rest).parseFrom i (x :: raw) =
      match (first.parse (some x)).within (.index i) with
      | .ok a => ((rest.parseFrom (i + 1) raw).1, (rest.parseFrom (i + 1) raw).2.map (a, ·))
      | .error failure => (failure.errors ++ (rest.parseFrom (i + 1) raw).1, none) := rfl

theorem Reads.length_eq {αs : List Type} {items : Shapes σ αs} {raw : List Json}
    {values : Tuple αs} (h : items.Reads raw values) : raw.length = items.size := by
  induction h with
  | nil => rfl
  | cons _ _ ih => exact congrArg (· + 1) ih

theorem Reads.parseFrom_eq {αs : List Type} {items : Shapes σ αs} {raw : List Json}
    {values : Tuple αs} (h : items.Reads raw values) (i : Nat) :
    items.parseFrom i raw = ([], some values) := by
  induction h generalizing i with
  | nil => rfl
  | cons h _ ih =>
    rw [parseFrom_cons, ih, h]
    rfl

theorem reads_of_parseFrom : {αs : List Type} → (items : Shapes σ αs) → (i : Nat) →
    (raw : List Json) → (values : Tuple αs) → raw.length = items.size →
      (items.parseFrom i raw).2 = some values → items.Reads raw values
  | _, .nil, _, [], _, _, _ => .nil
  | _, .cons first rest, i, x :: raw, values, hlength, h => by
    rw [parseFrom_cons] at h
    split at h
    next a ha =>
      obtain ⟨others, hothers, rfl⟩ := Option.map_eq_some_iff.1 h
      exact .cons (Outcome.within_eq_ok_iff.1 ha)
        (reads_of_parseFrom rest (i + 1) raw others (Nat.succ.inj hlength) hothers)
    next => cases h

theorem path_ne_nil_of_mem_parseFrom : {αs : List Type} → (items : Shapes σ αs) → (i : Nat) →
    (raw : List Json) → ∀ entry ∈ (items.parseFrom i raw).1, entry.path ≠ []
  | _, .nil, _, _, _, h => by cases h
  | _, .cons _ _, _, [], _, h => by cases h
  | _, .cons first rest, i, x :: raw, entry, h => by
    have ih := path_ne_nil_of_mem_parseFrom rest (i + 1) raw entry
    rw [parseFrom_cons] at h
    split at h
    next => exact ih h
    next failure hfailure =>
      rcases List.mem_append.1 h with hfirst | hrest
      · have hmem : entry ∈ ((first.parse (some x)).within (.index i)).errors := by
          rw [hfailure]
          exact hfirst
        exact Outcome.path_ne_nil_of_mem_errors_within hmem
      · exact ih hrest

/-- As many items as there are positions are read, unless an error is named. -/
theorem exists_reads_of_parseFrom : {αs : List Type} → (items : Shapes σ αs) → (i : Nat) →
    (raw : List Json) → items.All (fun s ↦ ∀ input, (s.parse input).IsExplained) →
      raw.length = items.size → (items.parseFrom i raw).1 = [] → ∃ values, items.Reads raw values
  | _, .nil, _, [], _, _, _ => ⟨(), .nil⟩
  | _, .cons first rest, i, x :: raw, hexplained, hlength, h => by
    rw [parseFrom_cons] at h
    split at h
    next a ha =>
      obtain ⟨values, hvalues⟩ :=
        exists_reads_of_parseFrom rest (i + 1) raw hexplained.2 (Nat.succ.inj hlength) h
      exact ⟨(a, values), .cons (Outcome.within_eq_ok_iff.1 ha) hvalues⟩
    next failure hfailure =>
      exact absurd (List.append_eq_nil_iff.1 h).1
        ((hexplained.1 (some x)).within (.index i) failure hfailure)

end Shapes

theorem JsonShapes.size_ofList (shapes : List (Shape σ Json)) :
    (ofList shapes).size = shapes.length := by
  induction shapes with
  | nil => rfl
  | cons shape rest ih => exact congrArg (· + 1) ih

/-! ## Fields -/

namespace Fields

/-- All shapes of the fields have the property. -/
def All (p : {α : Type} → Shape σ α → Prop) : Fields σ → Prop
  | nil => True
  | cons _ _ shape rest => p shape ∧ rest.All p

/-- The members are read to the slots, one for each field in the order of declaration. -/
def Reads (fields : Fields σ) (members : List (String × Json)) (slots : List (String × σ)) :
    Prop :=
  List.Forall₂ (fun field slot ↦ slot.1 = field.1 ∧ field.2 = .ok slot.2) (fields.parse members)
    slots

theorem parse_cons {α : Type} {name : String} {type : SlotType σ α} {shape : Shape σ α}
    {rest : Fields σ} {members : List (String × Json)} :
    (cons name type shape rest).parse members =
      (name, Outcome.within (.key name) ((shape.parse (members.lookup name)).map type.put)) ::
        rest.parse members := rfl

theorem map_fst_parse : (fields : Fields σ) → (members : List (String × Json)) →
    (fields.parse members).map Prod.fst = fields.names
  | .nil, _ => rfl
  | .cons name _ _ rest, members => by
    rw [parse_cons, List.map_cons, map_fst_parse rest members, names]

theorem path_ne_nil_of_mem_parse : (fields : Fields σ) → (members : List (String × Json)) →
    ∀ slot ∈ fields.parse members, ∀ entry ∈ slot.2.errors, entry.path ≠ []
  | .nil, _ => nofun
  | .cons name type shape rest, members => by
    rw [parse_cons]
    refine List.forall_mem_cons.2 ⟨fun entry hentry ↦ ?_, path_ne_nil_of_mem_parse rest members⟩
    exact Outcome.path_ne_nil_of_mem_errors_within hentry

theorem isExplained_parse : (fields : Fields σ) →
    fields.All (fun s ↦ ∀ input, (s.parse input).IsExplained) →
      (members : List (String × Json)) → ∀ slot ∈ fields.parse members, slot.2.IsExplained
  | .nil, _, _ => nofun
  | .cons name type shape rest, h, members => by
    rw [parse_cons]
    refine List.forall_mem_cons.2 ⟨?_, isExplained_parse rest h.2 members⟩
    exact ((h.1 _).map _).within _

theorem reads_nil_iff {members : List (String × Json)} {slots : List (String × σ)} :
    (nil : Fields σ).Reads members slots ↔ slots = [] :=
  List.forall₂_nil_left_iff

theorem reads_cons_iff {α : Type} {name : String} {type : SlotType σ α} {shape : Shape σ α}
    {rest : Fields σ} {members : List (String × Json)} {slots : List (String × σ)} :
    (cons name type shape rest).Reads members slots ↔
      ∃ a others, shape.parse (members.lookup name) = .ok a ∧ rest.Reads members others ∧
        slots = (name, type.put a) :: others := by
  unfold Reads
  rw [parse_cons, List.forall₂_cons_left_iff]
  simp only [Outcome.within_eq_ok_iff, map_eq_ok_iff]
  constructor
  · rintro ⟨⟨_, _⟩, others, ⟨rfl, a, ha, rfl⟩, hothers, rfl⟩
    exact ⟨a, others, ha, hothers, rfl⟩
  · rintro ⟨a, others, ha, hothers, rfl⟩
    exact ⟨_, others, ⟨rfl, a, ha, rfl⟩, hothers, rfl⟩

theorem Reads.map_fst {fields : Fields σ} {members : List (String × Json)}
    {slots : List (String × σ)} (h : fields.Reads members slots) :
    slots.map Prod.fst = fields.names := by
  rw [← map_fst_parse fields members]
  exact map_fst_eq_of_forall₂ (h.imp fun _ _ hslot ↦ hslot.1)

/-- A record that was read holds each of its slots under the slot's own name. -/
theorem Reads.slot?_eq {fields : Fields σ} {members : List (String × Json)} {record : Record σ}
    (h : fields.Reads members record.fields) (hnames : fields.names.Nodup) :
    ∀ slot ∈ record.fields, record.slot? slot.1 = some slot.2 := by
  rw [← h.map_fst] at hnames
  exact fun slot hslot ↦ lookup_of_mem hnames hslot

end Fields

/-! ## Shapes -/

namespace Shape

variable {α : Type} {inner element : Shape σ α} {input : Option Json} {a : α}

theorem parse_optional :
    (optional inner).parse input =
      match inner.parse input with
      | .ok a => .ok (some a)
      | .error failure => if failure.isMissing then .ok none else .error failure := rfl

theorem parse_optional_of_ok (h : inner.parse input = .ok a) :
    (optional inner).parse input = .ok (some a) := by
  rw [parse_optional, h]

theorem parse_optional_of_error {failure : Failure} (h : inner.parse input = .error failure) :
    (optional inner).parse input = if failure.isMissing then .ok none else .error failure := by
  rw [parse_optional, h]

theorem parse_optional_eq_some_iff :
    (optional inner).parse input = .ok (some a) ↔ inner.parse input = .ok a := by
  cases hinner : inner.parse input with
  | ok b => simp [parse_optional_of_ok hinner]
  | error failure =>
    rw [parse_optional_of_error hinner]
    split <;> simp

theorem parse_nullable_of_ne (h : input ≠ some .null) :
    (nullable inner).parse input = (inner.parse input).map some := by
  match input with
  | none | some (.bool _) | some (.number _) | some (.string _) => rfl
  | some (.array _) | some (.object _) => rfl
  | some .null => exact absurd rfl h

theorem parse_optional_fits (h : (inner.parse input).Fits input) :
    ((optional inner).parse input).Fits input := by
  cases hinner : inner.parse input with
  | ok a =>
    rw [parse_optional_of_ok hinner]
    exact .ok
  | error failure =>
    rw [parse_optional_of_error hinner]
    split
    next => exact .ok
    next => exact .error (h failure hinner)

theorem parse_nullable_fits (h : (inner.parse input).Fits input) :
    ((nullable inner).parse input).Fits input := by
  by_cases hnull : input = some .null
  · rw [hnull]
    exact .ok
  · rw [parse_nullable_of_ne hnull]
    exact h.map some

/-- An optional shape fails on a value that is there, with the errors of the shape inside. -/
theorem parse_optional_eq_error_iff {failure : Failure} (h : (inner.parse input).Fits input) :
    (optional inner).parse input = .error failure ↔
      ¬ IsVacant input ∧ inner.parse input = .error failure := by
  cases hinner : inner.parse input with
  | ok a => simp [parse_optional_of_ok hinner]
  | error f =>
    rw [parse_optional_of_error hinner]
    have hmissing := (h f hinner).isMissing_iff
    split
    next hyes => simp [hmissing.1 hyes]
    next hno => simp [mt hmissing.2 hno]

theorem parse_optional_eq_none_iff (h : (inner.parse input).Fits input) :
    (optional inner).parse input = .ok none ↔ IsVacant input ∧ ∀ a, inner.parse input ≠ .ok a := by
  cases hinner : inner.parse input with
  | ok a => simp [parse_optional_of_ok hinner]
  | error f =>
    rw [parse_optional_of_error hinner]
    have hmissing := (h f hinner).isMissing_iff
    split
    next hyes => simp [hmissing.1 hyes]
    next hno => simp [mt hmissing.2 hno]

/-! ## Constrained and mapped shapes -/

theorem parse_refine {accepts : α → Bool} {message : String} :
    (refine inner accepts message).parse input =
      inner.parse input >>= fun a ↦
        if accepts a then .ok a else .error (.single .invalid message) := by
  rw [Shape.parse]
  cases inner.parse input <;> rfl

theorem parse_tryMap {β : Type} {forward : α → Except String β} {backward : β → Option α} :
    (tryMap inner forward backward).parse input =
      inner.parse input >>= fun a ↦ Outcome.ofMessage (forward a) := by
  rw [Shape.parse]
  cases inner.parse input <;> rfl

/-! ## Containers -/

theorem parse_array :
    (array element).parse input =
      Parts.requireArray input >>= Parts.readElements fun x ↦ element.parse (some x) := rfl

theorem parse_set {order : Ord α} :
    (set order element).parse input = ((array element).parse input).map .ofList :=
  bind_bind_ok

theorem parse_distinct {equality : BEq α} :
    (distinct equality element).parse input =
      ((array element).parse input).map Parts.dropRepeated :=
  bind_bind_ok

theorem parse_array_eq_ok_iff {values : List α} (h : ∀ x, (element.parse (some x)).IsExplained) :
    (array element).parse input = .ok values ↔ ∃ items, input = some (.array items) ∧
      List.Forall₂ (fun x a ↦ element.parse (some x) = .ok a) items values := by
  rw [parse_array]
  simp only [bind_eq_ok_iff, Parts.requireArray_eq_ok_iff, Parts.readElements_eq_ok_iff h]

theorem parse_set_eq_ok_iff {order : Ord α} {s : SortedSet α}
    (h : ∀ x, (element.parse (some x)).IsExplained) :
    (set order element).parse input = .ok s ↔ ∃ items values, input = some (.array items) ∧
      List.Forall₂ (fun x a ↦ element.parse (some x) = .ok a) items values ∧
        s = .ofList values := by
  rw [parse_set, map_eq_ok_iff]
  simp only [parse_array_eq_ok_iff h]
  grind

theorem parse_distinct_eq_ok_iff {equality : BEq α} {kept : List α}
    (h : ∀ x, (element.parse (some x)).IsExplained) :
    (distinct equality element).parse input = .ok kept ↔
      ∃ items values, input = some (.array items) ∧
        List.Forall₂ (fun x a ↦ element.parse (some x) = .ok a) items values ∧
          kept = Parts.dropRepeated values := by
  rw [parse_distinct, map_eq_ok_iff]
  simp only [parse_array_eq_ok_iff h]
  grind

section Mapped

variable {β : Type} {other : Shape σ β} {f : α → β}

/-- Where elements are images of others, so is the array. -/
theorem parse_array_of_map
    (h : ∀ x, other.parse (some x) = (element.parse (some x)).map f) :
    (array other).parse input = ((array element).parse input).map (List.map f) := by
  rw [parse_array, parse_array, funext h]
  cases Parts.requireArray input with
  | error failure => rfl
  | ok items => exact Parts.readElements_map f items

/-- An image that keeps elements apart which were not equal, and takes equal ones together, has the
images of the elements that are kept. -/
theorem parse_distinct_of_map {equality : BEq α} {otherEquality : BEq β}
    (h : ∀ x, other.parse (some x) = (element.parse (some x)).map f)
    (hexplained : ∀ x, (element.parse (some x)).IsExplained)
    (hequality : ∀ x y a b, element.parse (some x) = .ok a → element.parse (some y) = .ok b →
      (f a == f b) = (a == b)) :
    (distinct otherEquality other).parse input =
      ((distinct equality element).parse input).map (List.map f) := by
  rw [parse_distinct, parse_distinct, parse_array_of_map h]
  cases hvalues : (array element).parse input with
  | error failure => rfl
  | ok values =>
    obtain ⟨items, -, hitems⟩ := (parse_array_eq_ok_iff hexplained).1 hvalues
    have hread (a : α) (ha : a ∈ values) : ∃ x, element.parse (some x) = .ok a := by
      obtain ⟨x, -, hx⟩ := exists_of_forall₂_right hitems a ha
      exact ⟨x, hx⟩
    refine congrArg Except.ok (Parts.dropRepeated_map values fun a ha b hb ↦ ?_)
    obtain ⟨x, hx⟩ := hread a ha
    obtain ⟨y, hy⟩ := hread b hb
    exact hequality x y a b hx hy

end Mapped

theorem parse_indexed :
    (indexed element).parse input =
      Parts.requireObject input >>= Parts.readMembers fun x ↦ element.parse (some x) := rfl

theorem parse_indexed_eq_ok_iff {value : Shape σ α} {map : SortedMap String α}
    (h : ∀ x, (value.parse (some x)).IsExplained) :
    (indexed value).parse input = .ok map ↔
      ∃ members entries, input = some (.object members) ∧
        List.Forall₂ (fun member entry ↦ entry.1 = member.1 ∧
          value.parse (some member.2) = .ok entry.2) members entries ∧ .ofList entries = map := by
  rw [parse_indexed]
  simp only [bind_eq_ok_iff, Parts.requireObject_eq_ok_iff, Parts.readMembers_eq_ok_iff h]
  grind

theorem parse_mapOf {κ ν : Type} {order : Ord κ} {key : Shape σ κ} {value : Shape σ ν} :
    (mapOf order key value).parse input =
      Parts.requireArray input >>= Parts.readPairs (fun x ↦ key.parse (some x))
        fun x ↦ value.parse (some x) := rfl

theorem parse_mapOf_eq_ok_iff {κ ν : Type} {order : Ord κ} {key : Shape σ κ} {value : Shape σ ν}
    {map : SortedMap κ ν} (hkey : ∀ x, (key.parse (some x)).IsExplained)
    (hvalue : ∀ x, (value.parse (some x)).IsExplained) :
    (mapOf order key value).parse input = .ok map ↔
      ∃ items entries, input = some (.array items) ∧
        List.Forall₂ (fun x entry ↦ ∃ k v, x = .array [k, v] ∧ key.parse (some k) = .ok entry.1 ∧
          value.parse (some v) = .ok entry.2) items entries ∧
        SortedMap.empty.AreNew entries ∧ .ofList entries = map := by
  rw [parse_mapOf]
  simp only [bind_eq_ok_iff, Parts.requireArray_eq_ok_iff,
    Parts.readPairs_eq_ok_iff hkey hvalue]
  grind

theorem parse_tuple {αs : List Type} {items : Shapes σ αs} :
    (tuple items).parse input =
      Parts.requireLength items.size input >>= fun raw ↦
        match items.parseFrom 0 raw with
        | (_, some values) => .ok values
        | (errors, none) => .error ⟨errors, none⟩ := rfl

theorem parse_tuple_eq_ok_iff {αs : List Type} {items : Shapes σ αs} {values : Tuple αs} :
    (tuple items).parse input = .ok values ↔
      ∃ raw, input = some (.array raw) ∧ items.Reads raw values := by
  rw [parse_tuple, bind_eq_ok_iff]
  simp only [Parts.requireLength_eq_ok_iff]
  constructor
  · rintro ⟨raw, ⟨rfl, hlength⟩, hread⟩
    split at hread
    next others hothers =>
      cases hread
      exact ⟨raw, rfl, items.reads_of_parseFrom 0 raw values hlength (by rw [hothers])⟩
    next => cases hread
  · rintro ⟨raw, rfl, hread⟩
    refine ⟨raw, ⟨rfl, hread.length_eq⟩, ?_⟩
    rw [hread.parseFrom_eq]

theorem parse_object {fields : Fields σ} {denyUnknown : Bool} :
    (object fields denyUnknown).parse input =
      Parts.requireObject input >>= fun members ↦ Parts.collectRecord (fields.parse members)
        (if denyUnknown then Parts.unknownFields fields.names members else []) := rfl

theorem parse_object_eq_ok_iff {fields : Fields σ} {denyUnknown : Bool} {record : Record σ}
    (hnames : fields.names.Nodup) (h : fields.All fun s ↦ ∀ input, (s.parse input).IsExplained) :
    (object fields denyUnknown).parse input = .ok record ↔
      ∃ members, input = some (.object members) ∧
        (denyUnknown = true → ∀ member ∈ members, member.1 ∈ fields.names) ∧
        fields.Reads members record.fields := by
  rw [parse_object, bind_eq_ok_iff]
  simp only [Parts.requireObject_eq_ok_iff]
  refine exists_congr fun members ↦ and_congr_right fun _ ↦ ?_
  rw [Parts.collectRecord_eq_ok_iff_forall₂ (by rwa [Fields.map_fst_parse])
    (Fields.isExplained_parse fields h members)]
  refine and_congr_left fun _ ↦ ?_
  cases denyUnknown <;> simp [Parts.unknownFields_eq_nil_iff]

end Shape

/-! ## Failures -/

mutual

/-- A shape put together from scalars by optional, nullable, unions and containers. -/
def Shape.IsStandard : {α : Type} → Shape σ α → Prop
  | _, .string _ => True
  | _, .number _ => True
  | _, .integer _ => True
  | _, .boolean _ => True
  | _, .datetime => True
  | _, .regex _ => True
  | _, .optional inner => inner.IsStandard
  | _, .nullable inner => inner.IsStandard
  | _, .union first second => first.IsStandard ∧ second.IsStandard
  | _, .array element => element.IsStandard
  | _, .set _ element => element.IsStandard
  | _, .distinct _ element => element.IsStandard
  | _, .indexed value => value.IsStandard
  | _, .mapOf _ key value => key.IsStandard ∧ value.IsStandard
  | _, .tuple items => items.IsStandard
  | _, .object fields _ => fields.IsStandard
  | _, _ => False

def Shapes.IsStandard : {αs : List Type} → Shapes σ αs → Prop
  | _, .nil => True
  | _, .cons first rest => first.IsStandard ∧ rest.IsStandard

def Fields.IsStandard : Fields σ → Prop
  | .nil => True
  | .cons _ _ shape rest => shape.IsStandard ∧ rest.IsStandard

end

section Containers

variable {α : Type} {element : Shape σ α} {input : Option Json}

theorem Shape.parse_array_fits : ((array element).parse input).Fits input := by
  rw [parse_array]
  refine .bind Parts.requireArray_fits fun items hitems ↦ ?_
  rw [Parts.requireArray_eq_ok_iff] at hitems
  exact Parts.readElements_fits (by simp [hitems, IsVacant])

theorem Shape.parse_set_fits {order : Ord α} : ((set order element).parse input).Fits input := by
  rw [parse_set]
  exact parse_array_fits.map _

theorem Shape.parse_distinct_fits {equality : BEq α} :
    ((distinct equality element).parse input).Fits input := by
  rw [parse_distinct]
  exact parse_array_fits.map _

theorem Shape.parse_indexed_fits : ((indexed element).parse input).Fits input := by
  rw [parse_indexed]
  refine .bind Parts.requireObject_fits fun members hmembers ↦ ?_
  rw [Parts.requireObject_eq_ok_iff] at hmembers
  exact Parts.readMembers_fits (by simp [hmembers, IsVacant])

theorem Shape.parse_mapOf_fits {κ : Type} {order : Ord κ} {key : Shape σ κ} :
    ((mapOf order key element).parse input).Fits input := by
  rw [parse_mapOf]
  refine .bind Parts.requireArray_fits fun items hitems ↦ ?_
  rw [Parts.requireArray_eq_ok_iff] at hitems
  exact Parts.readPairs_fits (by simp [hitems, IsVacant])

theorem Shape.parse_tuple_fits {αs : List Type} {items : Shapes σ αs}
    (h : items.All fun s ↦ ∀ input, (s.parse input).IsExplained) :
    ((tuple items).parse input).Fits input := by
  rw [parse_tuple]
  refine .bind Parts.requireLength_fits fun raw hraw ↦ ?_
  obtain ⟨rfl, hlength⟩ := Parts.requireLength_eq_ok_iff.1 hraw
  have hpath := items.path_ne_nil_of_mem_parseFrom 0 raw
  split
  next => exact .ok
  next errors hread =>
    rw [hread] at hpath
    refine .error (.of_nested (fun hnil ↦ ?_) hpath (by simp [IsVacant]))
    obtain ⟨values, hvalues⟩ :=
      items.exists_reads_of_parseFrom 0 raw h hlength (by rw [hread]; exact hnil)
    rw [hvalues.parseFrom_eq] at hread
    cases hread

theorem Shape.parse_object_fits {fields : Fields σ} {denyUnknown : Bool} :
    ((object fields denyUnknown).parse input).Fits input := by
  rw [parse_object]
  refine .bind Parts.requireObject_fits fun members hmembers ↦ ?_
  rw [Parts.requireObject_eq_ok_iff] at hmembers
  refine Parts.collectRecord_fits (by simp [hmembers, IsVacant])
    (fields.path_ne_nil_of_mem_parse members) ?_
  split
  next => exact Parts.path_ne_nil_of_mem_unknownFields
  next => simp

end Containers

mutual

/-- Every failure of a standard shape names an error, and it is that of a missing value exactly
where there is no value or only a null. -/
theorem Shape.parse_fits : {α : Type} → (s : Shape σ α) → s.IsStandard → (input : Option Json) →
    (s.parse input).Fits input
  | _, .string _, _, _ => Leaf.readString_fits
  | _, .number _, _, _ => Leaf.readNumber_fits
  | _, .integer _, _, _ => Leaf.readInteger_fits
  | _, .boolean _, _, _ => Leaf.readBoolean_fits
  | _, .datetime, _, _ => Leaf.readDatetime_fits
  | _, .regex _, _, _ => Leaf.readRegex_fits
  | _, .optional inner, h, input => Shape.parse_optional_fits (inner.parse_fits h input)
  | _, .nullable inner, h, input => Shape.parse_nullable_fits (inner.parse_fits h input)
  | _, .union first second, h, input =>
    Parts.readEither_fits (first.parse_fits h.1 input) (second.parse_fits h.2 input)
  | _, .array _, _, _ => Shape.parse_array_fits
  | _, .set _ _, _, _ => Shape.parse_set_fits
  | _, .distinct _ _, _, _ => Shape.parse_distinct_fits
  | _, .indexed _, _, _ => Shape.parse_indexed_fits
  | _, .mapOf _ _ _, _, _ => Shape.parse_mapOf_fits
  | _, .tuple items, h, _ => Shape.parse_tuple_fits (items.all_isExplained h)
  | _, .object _ _, _, _ => Shape.parse_object_fits

theorem Shapes.all_isExplained : {αs : List Type} → (items : Shapes σ αs) → items.IsStandard →
    items.All fun s ↦ ∀ input, (s.parse input).IsExplained
  | _, .nil, _ => trivial
  | _, .cons first rest, h =>
    ⟨fun input ↦ (first.parse_fits h.1 input).isExplained, rest.all_isExplained h.2⟩

end

theorem Shape.isExplained_parse {α : Type} {s : Shape σ α} (h : s.IsStandard)
    (input : Option Json) : (s.parse input).IsExplained :=
  (s.parse_fits h input).isExplained

theorem Fields.all_isExplained : (fields : Fields σ) → fields.IsStandard →
    fields.All fun s ↦ ∀ input, (s.parse input).IsExplained
  | .nil, _ => trivial
  | .cons _ _ _ rest, h => ⟨Shape.isExplained_parse h.1, rest.all_isExplained h.2⟩

end TwoWaySchema
