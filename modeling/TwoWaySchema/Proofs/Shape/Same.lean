import TwoWaySchema.Proofs.Json
import TwoWaySchema.Proofs.List
import TwoWaySchema.Proofs.ObjectBuilder

/-!
# The same value

When two values of a shape are the same: numbers as IEEE numbers, regular expressions by their
patterns, and containers part by part.  It is a partial equivalence, since NaN is not even the same
as itself, and without numbers and records it is equality.
-/

namespace TwoWaySchema

variable {σ : Type}

mutual

/-- Values are the same when the scalars in them are; the zeros are equal and NaN differs from
everything. -/
def Shape.Same : {α : Type} → Shape σ α → α → α → Prop
  | _, .number _ => fun x y ↦ (x == y) = true
  | _, .regex engine => fun a b ↦ engine.pattern a = engine.pattern b
  | _, .optional inner => Option.Rel inner.Same
  | _, .nullable inner => Option.Rel inner.Same
  | _, .orDefault inner _ => inner.Same
  | _, .transform inner _ => inner.Same
  | _, .andThen inner _ => inner.Same
  | _, .recover inner _ => inner.Same
  | _, .refine inner _ _ => inner.Same
  | _, .array element => List.Forall₂ element.Same
  | _, .set _ element => fun s t ↦ List.Forall₂ element.Same s.elements t.elements
  | _, .distinct _ element => List.Forall₂ element.Same
  | _, .indexed value => fun m n ↦
    List.Forall₂ (fun a b ↦ a.1 = b.1 ∧ value.Same a.2 b.2) m.entries n.entries
  | _, .mapOf _ key value => fun m n ↦
    List.Forall₂ (fun a b ↦ key.Same a.1 b.1 ∧ value.Same a.2 b.2) m.entries n.entries
  | _, .tuple items => items.Same
  | _, .object fields _ => fun r s ↦ fields.Same r.fields s.fields
  | _, _ => Eq

def Shapes.Same : {αs : List Type} → Shapes σ αs → Tuple αs → Tuple αs → Prop
  | _, .nil, _, _ => True
  | _, .cons first rest, (a, as), (b, bs) => first.Same a b ∧ rest.Same as bs

/-- The slots of two records hold values of the fields, in their order, which are the same. -/
def Fields.Same : Fields σ → List (String × σ) → List (String × σ) → Prop
  | .nil, slots, others => slots = [] ∧ others = []
  | .cons name type shape rest, slots, others =>
    ∃ a b slots' others', shape.Same a b ∧ rest.Same slots' others' ∧
      slots = (name, type.put a) :: slots' ∧ others = (name, type.put b) :: others'

end

/-! ## A partial equivalence -/

/-- A symmetric and transitive relation, in which not everything need be related to itself. -/
structure IsPartialEquivalence {α : Type} (r : α → α → Prop) : Prop where
  symm : ∀ {a b}, r a b → r b a
  trans : ∀ {a b c}, r a b → r b c → r a c

namespace IsPartialEquivalence

variable {α β : Type} {r : α → α → Prop}

theorem eq : IsPartialEquivalence (Eq : α → α → Prop) :=
  ⟨Eq.symm, Eq.trans⟩

theorem comap (h : IsPartialEquivalence r) (f : β → α) :
    IsPartialEquivalence fun a b ↦ r (f a) (f b) :=
  ⟨h.symm, h.trans⟩

theorem and {p : α → α → Prop} (hr : IsPartialEquivalence r) (hp : IsPartialEquivalence p) :
    IsPartialEquivalence fun a b ↦ r a b ∧ p a b :=
  ⟨fun h ↦ ⟨hr.symm h.1, hp.symm h.2⟩,
    fun hab hbc ↦ ⟨hr.trans hab.1 hbc.1, hp.trans hab.2 hbc.2⟩⟩

theorem optionRel (h : IsPartialEquivalence r) : IsPartialEquivalence (Option.Rel r) where
  symm hab := by
    cases hab with
    | none => exact .none
    | some hab => exact .some (h.symm hab)
  trans hab hbc := by
    cases hab with
    | none => exact hbc
    | some hab =>
      cases hbc with
      | some hbc => exact .some (h.trans hab hbc)

theorem forall₂ (h : IsPartialEquivalence r) : IsPartialEquivalence (List.Forall₂ r) where
  symm hab := .flip (hab.imp fun _ _ ↦ h.symm)
  trans {as bs cs} hab hbc := by
    induction hab generalizing cs with
    | nil => exact hbc
    | cons hhead _ ih =>
      cases hbc with
      | cons hhead' htail' => exact .cons (h.trans hhead hhead') (ih htail')

theorem double : IsPartialEquivalence fun x y : Double ↦ (x == y) = true where
  symm h := by rwa [Double.beq_comm]
  trans {x y z} hxy hyz := by
    change (!x.isNaN && !y.isNaN && x.position == y.position) = true at hxy
    change (!y.isNaN && !z.isNaN && y.position == z.position) = true at hyz
    change (!x.isNaN && !z.isNaN && x.position == z.position) = true
    grind

end IsPartialEquivalence

theorem SlotType.put_injective {α : Type} (type : SlotType σ α) : type.put.Injective := by
  intro a b h
  have hget := congrArg type.get? h
  rw [get?_put, get?_put] at hget
  exact Option.some.inj hget

mutual

theorem Shape.same_isPartialEquivalence : {α : Type} → (s : Shape σ α) →
    IsPartialEquivalence s.Same
  | _, .string _ | _, .integer _ | _, .boolean _ | _, .datetime => .eq
  | _, .map _ _ _ | _, .tryMap _ _ _ | _, .union _ _ => .eq
  | _, .sequence _ | _, .construct _ _ _ _ => .eq
  | _, .number _ => .double
  | _, .regex engine => .comap .eq engine.pattern
  | _, .optional inner => .optionRel inner.same_isPartialEquivalence
  | _, .nullable inner => .optionRel inner.same_isPartialEquivalence
  | _, .orDefault inner _ => inner.same_isPartialEquivalence
  | _, .transform inner _ => inner.same_isPartialEquivalence
  | _, .andThen inner _ => inner.same_isPartialEquivalence
  | _, .recover inner _ => inner.same_isPartialEquivalence
  | _, .refine inner _ _ => inner.same_isPartialEquivalence
  | _, .array element => .forall₂ element.same_isPartialEquivalence
  | _, .set _ element => .comap (.forall₂ element.same_isPartialEquivalence) SortedSet.elements
  | _, .distinct _ element => .forall₂ element.same_isPartialEquivalence
  | _, .indexed value =>
    .comap (.forall₂ (.and (.comap .eq Prod.fst) (.comap value.same_isPartialEquivalence Prod.snd)))
      SortedMap.entries
  | _, .mapOf _ key value =>
    .comap (.forall₂ (.and (.comap key.same_isPartialEquivalence Prod.fst)
      (.comap value.same_isPartialEquivalence Prod.snd))) SortedMap.entries
  | _, .tuple items => items.same_isPartialEquivalence
  | _, .object fields _ => .comap fields.same_isPartialEquivalence Record.fields

theorem Shapes.same_isPartialEquivalence : {αs : List Type} → (items : Shapes σ αs) →
    IsPartialEquivalence items.Same
  | _, .nil => ⟨fun _ ↦ trivial, fun _ _ ↦ trivial⟩
  | _, .cons first rest =>
    .and (.comap first.same_isPartialEquivalence Prod.fst)
      (.comap rest.same_isPartialEquivalence Prod.snd)

theorem Fields.same_isPartialEquivalence : (fields : Fields σ) →
    IsPartialEquivalence fields.Same
  | .nil => ⟨fun h ↦ ⟨h.2, h.1⟩, fun h h' ↦ ⟨h.1, h'.2⟩⟩
  | .cons name type shape rest => by
    have hshape := shape.same_isPartialEquivalence
    have hrest := rest.same_isPartialEquivalence
    constructor
    · rintro _ _ ⟨a, b, as, bs, hab, hslots, rfl, rfl⟩
      exact ⟨b, a, bs, as, hshape.symm hab, hrest.symm hslots, rfl, rfl⟩
    · rintro _ _ _ ⟨a, b, as, bs, hab, hslots, rfl, rfl⟩ ⟨b', c, bs', cs, hbc, hslots', h, rfl⟩
      obtain ⟨hslot, hothers⟩ := List.cons.inj h
      obtain rfl : b = b' := type.put_injective (Prod.mk.inj hslot).2
      obtain rfl : bs = bs' := hothers
      exact ⟨a, c, as, cs, hshape.trans hab hbc, hrest.trans hslots hslots', rfl, rfl⟩

end

/-! ## Equality -/

mutual

/-- No number and no record is part of a value of the shape, and its regular expressions are told
apart by their patterns. -/
def Shape.IsDiscrete : {α : Type} → Shape σ α → Prop
  | _, .number _ => False
  | _, .regex engine => engine.pattern.Injective
  | _, .optional inner => inner.IsDiscrete
  | _, .nullable inner => inner.IsDiscrete
  | _, .orDefault inner _ => inner.IsDiscrete
  | _, .transform inner _ => inner.IsDiscrete
  | _, .andThen inner _ => inner.IsDiscrete
  | _, .recover inner _ => inner.IsDiscrete
  | _, .refine inner _ _ => inner.IsDiscrete
  | _, .array element => element.IsDiscrete
  | _, .set _ element => element.IsDiscrete
  | _, .distinct _ element => element.IsDiscrete
  | _, .indexed value => value.IsDiscrete
  | _, .mapOf _ key value => key.IsDiscrete ∧ value.IsDiscrete
  | _, .tuple items => items.IsDiscrete
  | _, .object _ _ => False
  | _, _ => True

def Shapes.IsDiscrete : {αs : List Type} → Shapes σ αs → Prop
  | _, .nil => True
  | _, .cons first rest => first.IsDiscrete ∧ rest.IsDiscrete

end

theorem optionRel_eq {α : Type} : Option.Rel (Eq : α → α → Prop) = Eq := by
  funext a b
  apply propext
  constructor
  · intro h
    cases h with
    | none => rfl
    | some h => rw [h]
  · rintro rfl
    cases a with
    | none => exact .none
    | some a => exact .some rfl

mutual

/-- Discrete values are the same when they are equal. -/
theorem Shape.same_eq : {α : Type} → (s : Shape σ α) → s.IsDiscrete → s.Same = Eq
  | _, .string _, _ | _, .integer _, _ | _, .boolean _, _ | _, .datetime, _ => rfl
  | _, .map _ _ _, _ | _, .tryMap _ _ _, _ | _, .union _ _, _ => rfl
  | _, .sequence _, _ | _, .construct _ _ _ _, _ => rfl
  | _, .regex engine, h => by
    funext a b
    exact propext ⟨fun hab ↦ h hab, congrArg engine.pattern⟩
  | _, .optional inner, h => by rw [Shape.Same, inner.same_eq h, optionRel_eq]
  | _, .nullable inner, h => by rw [Shape.Same, inner.same_eq h, optionRel_eq]
  | _, .orDefault inner _, h => inner.same_eq h
  | _, .transform inner _, h => inner.same_eq h
  | _, .andThen inner _, h => inner.same_eq h
  | _, .recover inner _, h => inner.same_eq h
  | _, .refine inner _ _, h => inner.same_eq h
  | _, .array element, h => by rw [Shape.Same, element.same_eq h, List.forall₂_eq_eq_eq]
  | _, .set _ element, h => by
    funext ⟨as⟩ ⟨bs⟩
    rw [Shape.Same, element.same_eq h, List.forall₂_eq_eq_eq, SortedSet.mk.injEq]
  | _, .distinct _ element, h => by rw [Shape.Same, element.same_eq h, List.forall₂_eq_eq_eq]
  | _, .indexed value, h => by
    funext ⟨as⟩ ⟨bs⟩
    simp only [Shape.Same, value.same_eq h, ← Prod.ext_iff, List.forall₂_eq_eq_eq,
      SortedMap.mk.injEq]
  | _, .mapOf _ key value, h => by
    funext ⟨as⟩ ⟨bs⟩
    simp only [Shape.Same, key.same_eq h.1, value.same_eq h.2, ← Prod.ext_iff,
      List.forall₂_eq_eq_eq, SortedMap.mk.injEq]
  | _, .tuple items, h => items.same_eq h

theorem Shapes.same_eq : {αs : List Type} → (items : Shapes σ αs) → items.IsDiscrete →
    items.Same = Eq
  | _, .nil, _ => by
    funext a b
    exact propext ⟨fun _ ↦ rfl, fun _ ↦ trivial⟩
  | _, .cons first rest, h => by
    funext ⟨a, as⟩ ⟨b, bs⟩
    rw [Shapes.Same, first.same_eq h.1, rest.same_eq h.2]
    exact (Prod.mk.injEq _ _ _ _).symm

end

/-! ## Orders -/

/-- The order is transitive, and it is values that are the same which it takes for equal. -/
structure IsOrderOf {α : Type} (order : Ord α) (same : α → α → Prop) : Prop where
  trans : Std.TransOrd α
  eq_iff : ∀ a b, compare a b = .eq ↔ same a b

/-- Every order that tells values apart is an order of discrete values. -/
theorem IsOrderOf.of_isDiscrete {α : Type} [order : Ord α] [Std.TransOrd α] [Std.LawfulEqOrd α]
    {s : Shape σ α} (h : s.IsDiscrete) : IsOrderOf order s.Same := by
  refine ⟨inferInstance, fun a b ↦ ?_⟩
  rw [s.same_eq h]
  exact Std.LawfulEqOrd.compare_eq_iff_eq

end TwoWaySchema
