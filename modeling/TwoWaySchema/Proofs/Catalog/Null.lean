import TwoWaySchema.Proofs.Catalog.Wrappers

/-!
# Null and absent values

A schema writes null for null and for nothing else.  A schema without unions reads an absent value
as null or not at all, unless a default is reached through wrappers alone.
-/

namespace TwoWaySchema

/-- What the schema writes is null if and only if the value is. -/
def Schema.KeepsNull (s : JsonSchema) : Prop :=
  ∀ v w, s.serialize v = .ok w → (w = .null ↔ v = .null)

namespace Schema.KeepsNull

/-- A schema that has nothing for null and never writes it. -/
theorem of_ne {s : JsonSchema} (hread : ∀ w, s.serialize .null ≠ .ok w)
    (hwrite : ∀ v, s.serialize v ≠ .ok .null) : s.KeepsNull := by
  intro v w h
  refine iff_of_false ?_ ?_
  · rintro rfl
    exact hwrite v h
  · rintro rfl
    exact hread w h

theorem map {α : Type} {s : Schema Json α} {forward : α → Json} {backward : Json → Option α}
    (hnull : backward .null = none) (h : ∀ a, s.serialize a ≠ .ok .null) :
    KeepsNull (s.map forward backward) := by
  refine of_ne (fun w hw ↦ ?_) fun v hv ↦ ?_
  · obtain ⟨a, ha, -⟩ := Schema.map_serialize_eq_ok_iff.1 hw
    rw [hnull] at ha
    cases ha
  · obtain ⟨a, -, ha⟩ := Schema.map_serialize_eq_ok_iff.1 hv
    exact h a ha

/-- A schema that writes null for null, and all else like another that keeps null. -/
theorem of_serialize_of_ne {s t : JsonSchema} (h : s.KeepsNull)
    (hnull : t.serialize .null = .ok .null)
    (hne : ∀ v, v ≠ .null → t.serialize v = s.serialize v) : t.KeepsNull := by
  intro v w hw
  by_cases hv : v = .null
  · subst hv
    rw [Except.ok.inj (hw.symm.trans hnull)]
  · rw [hne v hv] at hw
    exact h v w hw

end Schema.KeepsNull

namespace Descriptor

variable {ρ : Type} [Regex.Engine ρ] {s t : JsonSchema} {coerces : Bool}

theorem map_ne_ok_null {α : Type} {x : Except SerializeError α} {f : α → Json}
    (h : ∀ a, f a ≠ .null) : x.map f ≠ .ok .null := by
  intro hx
  obtain ⟨a, -, ha⟩ := map_eq_ok_iff.1 hx
  exact h a ha

theorem stringSchema_keepsNull {pattern : Option ρ} :
    (stringSchema coerces pattern).KeepsNull := by
  refine .map rfl fun a h ↦ ?_
  cases pattern <;> cases coerces <;> cases h

theorem writeNumber_ne_null (x : Double) : Leaf.writeNumber x ≠ .ok .null := by
  unfold Leaf.writeNumber
  split <;> simp

theorem numberSchema_keepsNull : (numberSchema coerces).KeepsNull := by
  refine .of_ne (fun w h ↦ ?_) fun v h ↦ ?_
  · cases coerces <;> cases h
  · cases v with
    | number n => cases coerces <;> exact writeNumber_ne_null n.toDouble h
    | _ => cases coerces <;> cases h

theorem integerSchema_keepsNull : (integerSchema coerces).KeepsNull := by
  refine .map rfl fun a h ↦ ?_
  cases coerces <;> cases h

theorem booleanSchema_keepsNull : (booleanSchema coerces).KeepsNull := by
  refine .map rfl fun a h ↦ ?_
  cases coerces <;> cases h

theorem optionalSchema_keepsNull (h : s.KeepsNull) : (optionalSchema s).KeepsNull :=
  h.of_serialize_of_ne rfl fun _ ↦ optionalSchema_serialize_of_ne

theorem nullableSchema_keepsNull (h : s.KeepsNull) : (nullableSchema s).KeepsNull :=
  h.of_serialize_of_ne rfl fun _ ↦ nullableSchema_serialize_of_ne

theorem or_serialize_eq_ok {v w : Json} (h : (s.or t).serialize v = .ok w) :
    s.serialize v = .ok w ∨ t.serialize v = .ok w :=
  Writer.firstMatching_eq_ok h

theorem or_keepsNull (hs : s.KeepsNull) (ht : t.KeepsNull) : (s.or t).KeepsNull := by
  intro v w hw
  rcases or_serialize_eq_ok hw with hfirst | hsecond
  · exact hs v w hfirst
  · exact ht v w hsecond

variable {entries : List (String × Descriptor)} {d : Descriptor}

theorem Denotes.keepsNull (hs : Denotes entries d s) : s.KeepsNull := by
  induction hs with
  | string | pattern => exact stringSchema_keepsNull
  | number => exact numberSchema_keepsNull
  | integer => exact integerSchema_keepsNull
  | boolean => exact booleanSchema_keepsNull
  | datetime => exact .map rfl fun a h ↦ by cases h
  | array | set => exact .map rfl fun a ↦ map_ne_ok_null nofun
  | indexed => exact .map rfl fun a ↦ map_ne_ok_null nofun
  | tuple =>
    refine .of_ne (fun w h ↦ ?_) fun v h ↦ ?_
    · obtain ⟨values, xs, hv, -⟩ := sequence_serialize_eq_ok_iff.1 h
      cases hv
    · obtain ⟨values, xs, -, -, -, hw⟩ := sequence_serialize_eq_ok_iff.1 h
      cases hw
  | object _ _ h =>
    obtain ⟨-, rfl⟩ := objectSchema_eq_ok_iff.1 h
    exact .map rfl fun a ↦ map_ne_ok_null nofun
  | optional _ ih => exact optionalSchema_keepsNull ih
  | nullable _ ih => exact nullableSchema_keepsNull ih
  | orDefault _ _ ih => exact ih
  | union length _ ih =>
    exact unionSchema_of_or (fun _ _ hs ht ↦ or_keepsNull hs ht)
      (forall_mem_of_forall_mem_zip length ih)
  | reference _ _ ih => exact ih

end Descriptor

end TwoWaySchema
