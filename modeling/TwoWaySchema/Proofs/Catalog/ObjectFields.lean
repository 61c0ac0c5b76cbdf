import TwoWaySchema.Catalog
import TwoWaySchema.Proofs.ObjectBuilder

/-!
# The fields of object descriptors

The fields of an object are declared one after another.  They make a schema exactly when no name
is empty and none comes twice, and the schema then has the fields in the order in which they came.
-/

namespace TwoWaySchema

namespace Descriptor

/-- The declared fields, each holding a JSON value. -/
def fieldsOf : List (String × JsonSchema) → Fields Json
  | [] => .nil
  | (name, schema) :: rest => .cons name slot schema.shape (fieldsOf rest)

@[simp]
theorem names_fieldsOf (fields : List (String × JsonSchema)) :
    (fieldsOf fields).names = fields.map Prod.fst := by
  induction fields with
  | nil => rfl
  | cons field rest ih => simp [fieldsOf, Fields.names, ih]

/-- The schema of the objects with these fields. -/
def recordSchema (fields : List (String × JsonSchema)) (denyUnknown : Bool) : JsonSchema :=
  (⟨.object (fieldsOf fields) denyUnknown, none⟩ : Schema Json (Record Json)).map
    (fun record ↦ .ofMembers record.fields) fun x ↦ x.toMembers?.map recordOfMembers

/-- The builder after these fields too. -/
def declareAll (b : ObjectBuilder Json) (fields : List (String × JsonSchema)) :
    ObjectBuilder Json :=
  fields.foldl (fun b field ↦ b.field field.1 slot field.2) b

theorem declareAll_spec (fields : List (String × JsonSchema)) (b : ObjectBuilder Json) :
    (declareAll b fields).fields = b.fields.append (fieldsOf fields) ∧
      (declareAll b fields).denyUnknown = b.denyUnknown ∧
      (b.IsConsistent → (declareAll b fields).IsConsistent) := by
  induction fields generalizing b with
  | nil => exact ⟨(Fields.append_nil _).symm, rfl, id⟩
  | cons field rest ih =>
    obtain ⟨hfields, hdeny, hconsistent⟩ := ih (b.field field.1 slot field.2)
    refine ⟨?_, hdeny, fun hb ↦ hconsistent (hb.field field.1 slot field.2)⟩
    exact hfields.trans (Fields.append_assoc _ _ _)

theorem objectSchema_eq_ok_iff {fields : List (String × JsonSchema)} {denyUnknown : Bool}
    {s : JsonSchema} :
    objectSchema fields denyUnknown = .ok s ↔
      AreFieldNames (fields.map Prod.fst) ∧ s = recordSchema fields denyUnknown := by
  obtain ⟨hfields, hdeny, hconsistent⟩ := declareAll_spec fields .empty
  have hnames := hconsistent ObjectBuilder.isConsistent_empty
  have hfields' : (declareAll .empty fields).fields = fieldsOf fields := hfields
  have hdeny' : (declareAll .empty fields).denyUnknown = false := hdeny
  unfold ObjectBuilder.IsConsistent at hnames
  rw [hfields', names_fieldsOf] at hnames
  change ((if denyUnknown then (declareAll .empty fields).denyUnknownFields
    else declareAll .empty fields).build.map _) = .ok s ↔ _
  cases herror : (declareAll .empty fields).error with
  | some error =>
    have hbad : ¬ AreFieldNames (fields.map Prod.fst) := by
      rw [← hnames, herror]
      simp
    cases denyUnknown <;>
      simp [ObjectBuilder.build, ObjectBuilder.denyUnknownFields, herror, hbad, Except.map]
  | none =>
    have hgood := hnames.1 herror
    cases denyUnknown <;>
      simp [ObjectBuilder.build, ObjectBuilder.denyUnknownFields, herror, hgood, Except.map,
        hfields', hdeny', recordSchema, eq_comm (a := s)]

end Descriptor

end TwoWaySchema
