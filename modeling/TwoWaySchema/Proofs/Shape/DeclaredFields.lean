import TwoWaySchema.Proofs.Shape.Reading
import TwoWaySchema.Proofs.Writer

/-!
# Fields one by one

What an object reads and writes, field by field.  A record that was read holds under the name of
each field what the shape of the field reads from the member of that name.  What is written for a
record has under that name what the shape writes in a field, and nothing where the shape leaves the
value out.
-/

namespace TwoWaySchema

variable {σ : Type}

namespace Fields

/-- One of the fields has this name, slot type and shape. -/
inductive Declares {α : Type} (name : String) (type : SlotType σ α) (shape : Shape σ α) :
    Fields σ → Prop
  | head {rest : Fields σ} : Declares name type shape (.cons name type shape rest)
  | tail {β : Type} {other : String} {otherType : SlotType σ β} {otherShape : Shape σ β}
      {rest : Fields σ} (h : Declares name type shape rest) :
      Declares name type shape (.cons other otherType otherShape rest)

variable {α : Type} {name : String} {type : SlotType σ α} {shape : Shape σ α} {fields : Fields σ}
  {members : List (String × Json)} {record : Record σ} {written : List (String × Json)}

theorem Declares.mem_names (h : fields.Declares name type shape) : name ∈ fields.names := by
  induction h with
  | head => exact List.mem_cons_self
  | tail _ ih => exact List.mem_cons_of_mem _ ih

theorem All.of_declares {p : {α : Type} → Shape σ α → Prop} (h : fields.All p)
    (hfield : fields.Declares name type shape) : p shape := by
  induction hfield with
  | head => exact h.1
  | tail _ ih => exact ih h.2

/-! ## Reading -/

theorem Reads.exists_of_declares {slots : List (String × σ)} (h : fields.Reads members slots)
    (hfield : fields.Declares name type shape) :
    ∃ a, shape.parse (members.lookup name) = .ok a ∧ (name, type.put a) ∈ slots := by
  induction hfield generalizing slots with
  | head =>
    obtain ⟨a, others, ha, -, rfl⟩ := reads_cons_iff.1 h
    exact ⟨a, ha, List.mem_cons_self⟩
  | tail _ ih =>
    obtain ⟨b, others, -, hothers, rfl⟩ := reads_cons_iff.1 h
    obtain ⟨a, ha, hmem⟩ := ih hothers
    exact ⟨a, ha, List.mem_cons_of_mem _ hmem⟩

/-- Members are read when each field reads the member of its name. -/
theorem exists_reads (members : List (String × Json)) : (fields : Fields σ) →
    (∀ {α : Type} (name : String) (type : SlotType σ α) (shape : Shape σ α),
      fields.Declares name type shape → ∃ a, shape.parse (members.lookup name) = .ok a) →
    ∃ slots, fields.Reads members slots
  | .nil, _ => ⟨[], reads_nil_iff.2 rfl⟩
  | .cons name type shape rest, h => by
    obtain ⟨a, ha⟩ := h name type shape .head
    obtain ⟨others, hothers⟩ := exists_reads members rest fun name type shape hfield ↦
      h name type shape hfield.tail
    exact ⟨(name, type.put a) :: others, reads_cons_iff.2 ⟨a, others, ha, hothers, rfl⟩⟩

/-! ## Writing -/

/-- What is written for the fields is what is written for the first one, unless it is left out, and
what is written for the others. -/
theorem exists_of_serialize_cons {rest : Fields σ}
    (h : (cons name type shape rest).serialize record = .ok written) :
    ∃ (x : Option Json) (xs : List (String × Json)), rest.serialize record = .ok xs ∧
      (x.map (name, ·)).toList ++ xs = written ∧
      ∀ a, record.slot? name = some (type.put a) → shape.serializeField a = .ok x := by
  rw [serialize] at h
  split at h
  next hslot => exact ⟨none, written, h, rfl, fun a ha ↦ by cases hslot.symm.trans ha⟩
  next slot hslot =>
    obtain ⟨x, xs, hx, hxs, heq⟩ := bind_bind_eq_ok_iff.1 h
    refine ⟨x, xs, hxs, heq, fun a ha ↦ ?_⟩
    obtain rfl : slot = type.put a := Option.some.inj (hslot.symm.trans ha)
    have hwrite := mapError_eq_ok_iff.1 hx
    rw [Writer.slot, SlotType.get?_put] at hwrite
    exact hwrite

theorem serialize_cons_of_slot {rest : Fields σ} {a : α} {x : Option Json}
    {xs : List (String × Json)} (hslot : record.slot? name = some (type.put a))
    (hx : shape.serializeField a = .ok x) (hxs : rest.serialize record = .ok xs) :
    (cons name type shape rest).serialize record = .ok ((x.map (name, ·)).toList ++ xs) := by
  have hwrite : Writer.slot type shape.describe shape.writer (type.put a) = .ok x := by
    rw [Writer.slot, SlotType.get?_put]
    exact hx
  rw [serialize, hslot]
  exact bind_bind_eq_ok_iff.2 ⟨x, xs, mapError_eq_ok_iff.2 hwrite, hxs, rfl⟩

theorem map_fst_serialize_sublist : (fields : Fields σ) → {written : List (String × Json)} →
    fields.serialize record = .ok written → (written.map Prod.fst).Sublist fields.names
  | .nil, _, h => by
    cases h
    exact .slnil
  | .cons name type shape rest, _, h => by
    obtain ⟨x, xs, hxs, rfl, -⟩ := exists_of_serialize_cons h
    have hrest := map_fst_serialize_sublist rest hxs
    cases x with
    | none => exact hrest.cons name
    | some x => exact hrest.cons_cons name

/-- Under the name of a field stands what its shape writes there. -/
theorem Declares.serializeField_eq (hfield : fields.Declares name type shape)
    (hnames : fields.names.Nodup) (h : fields.serialize record = .ok written) {a : α}
    (hslot : record.slot? name = some (type.put a)) :
    shape.serializeField a = .ok (written.lookup name) := by
  induction hfield generalizing written with
  | @head rest =>
    obtain ⟨x, xs, hxs, rfl, hwrite⟩ := exists_of_serialize_cons h
    have habsent : xs.lookup name = none := lookup_eq_none_iff_notMem.2 fun hmem ↦
      (List.nodup_cons.1 hnames).1 ((map_fst_serialize_sublist rest hxs).subset hmem)
    rw [hwrite a hslot]
    cases x <;> simp [habsent]
  | @tail _ other _ _ rest hrest ih =>
    obtain ⟨x, xs, hxs, rfl, -⟩ := exists_of_serialize_cons h
    obtain ⟨hother, hnames⟩ := List.nodup_cons.1 hnames
    have hne : name ≠ other := fun heq ↦ hother (heq ▸ hrest.mem_names)
    rw [ih hnames hxs]
    cases x with
    | none => rfl
    | some x => exact congrArg Except.ok (lookup_cons_of_ne hne).symm

/-- A record is written when the shape of each field writes what the record holds for it. -/
theorem exists_serialize : (fields : Fields σ) →
    (∀ {α : Type} (name : String) (type : SlotType σ α) (shape : Shape σ α),
      fields.Declares name type shape → ∃ a x, record.slot? name = some (type.put a) ∧
        shape.serializeField a = .ok x) →
    ∃ written, fields.serialize record = .ok written
  | .nil, _ => ⟨[], rfl⟩
  | .cons name type shape rest, h => by
    obtain ⟨a, x, hslot, hx⟩ := h name type shape .head
    obtain ⟨xs, hxs⟩ := exists_serialize rest fun name type shape hfield ↦
      h name type shape hfield.tail
    exact ⟨_, serialize_cons_of_slot hslot hx hxs⟩

end Fields

/-! ## Objects -/

namespace Shape

variable {fields : Fields σ} {denyUnknown : Bool}

/-- A record that was read holds what each field read. -/
theorem exists_slot_of_parse_object (hnames : fields.names.Nodup)
    (hexplained : fields.All fun s ↦ ∀ input, (s.parse input).IsExplained)
    {members : List (String × Json)} {record : Record σ}
    (h : (object fields denyUnknown).parse (some (.object members)) = .ok record)
    {α : Type} {name : String} {type : SlotType σ α} {shape : Shape σ α}
    (hfield : fields.Declares name type shape) :
    ∃ a, shape.parse (members.lookup name) = .ok a ∧ record.slot? name = some (type.put a) := by
  obtain ⟨_, hmembers, -, hreads⟩ := (parse_object_eq_ok_iff hnames hexplained).1 h
  obtain rfl := Json.object.inj (Option.some.inj hmembers)
  obtain ⟨a, ha, hslot⟩ := hreads.exists_of_declares hfield
  exact ⟨a, ha, hreads.slot?_eq hnames _ hslot⟩

/-- A record is written and read again when each of its fields is. -/
theorem exists_reread_object (denyUnknown : Bool) (hnames : fields.names.Nodup)
    (hexplained : fields.All fun s ↦ ∀ input, (s.parse input).IsExplained) {record : Record σ}
    (h : ∀ {α : Type} (name : String) (type : SlotType σ α) (shape : Shape σ α),
      fields.Declares name type shape → ∃ a x b, record.slot? name = some (type.put a) ∧
        shape.serializeField a = .ok x ∧ shape.parse x = .ok b) :
    ∃ w reread, (object fields denyUnknown).serialize record = .ok w ∧
      (object fields denyUnknown).parse (some w) = .ok reread ∧
      ∀ {α : Type} (name : String) (type : SlotType σ α) (shape : Shape σ α) (a : α)
        (x : Option Json), fields.Declares name type shape →
          record.slot? name = some (type.put a) → shape.serializeField a = .ok x →
            ∃ b, shape.parse x = .ok b ∧ reread.slot? name = some (type.put b) := by
  obtain ⟨written, hwritten⟩ := fields.exists_serialize fun name type shape hfield ↦ by
    obtain ⟨a, x, -, hslot, hx, -⟩ := h name type shape hfield
    exact ⟨a, x, hslot, hx⟩
  have hkeys := fields.map_fst_serialize_sublist hwritten
  have hlookup := SortedMap.lookup_ofList (hnames.sublist hkeys)
  obtain ⟨slots, hslots⟩ := Fields.exists_reads (SortedMap.ofList written).entries fields
    fun name type shape hfield ↦ by
      obtain ⟨a, x, b, hslot, hx, hb⟩ := h name type shape hfield
      have hx' := hfield.serializeField_eq hnames hwritten hslot
      rw [hlookup, ← Except.ok.inj (hx.symm.trans hx')]
      exact ⟨b, hb⟩
  have hreread : (object fields denyUnknown).parse (some (.ofMembers written)) = .ok ⟨slots⟩ := by
    refine (parse_object_eq_ok_iff hnames hexplained).2 ⟨_, rfl, fun _ member hmember ↦ ?_, hslots⟩
    exact hkeys.subset (List.mem_map_of_mem (SortedMap.mem_of_mem_ofList hmember))
  refine ⟨.ofMembers written, ⟨slots⟩, map_eq_ok_iff.2 ⟨written, hwritten, rfl⟩, hreread, ?_⟩
  intro α name type shape a x hfield hslot hx
  obtain ⟨b, hb, hmem⟩ := exists_slot_of_parse_object hnames hexplained hreread hfield
  have hx' := hfield.serializeField_eq hnames hwritten hslot
  rw [hlookup, ← Except.ok.inj (hx.symm.trans hx')] at hb
  exact ⟨b, hb, hmem⟩

end Shape

end TwoWaySchema
