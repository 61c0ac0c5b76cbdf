import TwoWaySchema.Proofs.Catalog.Inlining

/-!
# Coercion in descriptors

Whether scalars coerce can be said in a descriptor, or asked of its schema afterwards.  The
descriptor says it of each scalar, before constraints and mappings are put around it; the schema
passes it inwards through them.  Both go through optional, nullable and unions and stop at
containers, and both come to the same schema.
-/

namespace TwoWaySchema

namespace Descriptor

/-! ## Flags -/

mutual

/-- The descriptor in which all scalars coerce but for those inside containers. -/
def coerce : Descriptor → Descriptor
  | string _ pattern => string true pattern
  | number _ => number true
  | integer _ => integer true
  | boolean _ => boolean true
  | optional inner => optional (coerce inner)
  | nullable inner => nullable (coerce inner)
  | union alternatives => union (coerceItems alternatives)
  | d => d

def coerceItems : List Descriptor → List Descriptor
  | [] => []
  | d :: rest => coerce d :: coerceItems rest

end

theorem coerceItems_eq_map (items : List Descriptor) : coerceItems items = items.map coerce := by
  induction items with
  | nil => rfl
  | cons d rest ih => rw [coerceItems, ih, List.map_cons]

/-- There are no references in the descriptor and no defaults. -/
structure IsSelfContained (d : Descriptor) : Prop where
  references : d.references = []
  no_default : ∀ inner value, ¬ (orDefault inner value).IsWithin d

theorem IsSelfContained.child {d child : Descriptor} (h : d.IsSelfContained)
    (hchild : child ∈ d.children) : child.IsSelfContained where
  references := by
    apply List.eq_nil_iff_forall_not_mem.2
    intro name hname
    have hmem : name ∈ d.references := references_subset_of_mem_children hchild hname
    rw [h.references] at hmem
    exact absurd hmem List.not_mem_nil
  no_default inner value hwithin := h.no_default inner value (hwithin.child hchild)

theorem IsSelfContained.of_children {d : Descriptor} (href : ∀ name, d ≠ reference name)
    (hdefault : ∀ inner value, d ≠ orDefault inner value)
    (h : ∀ child ∈ d.children, child.IsSelfContained) : d.IsSelfContained where
  references := by
    apply List.eq_nil_iff_forall_not_mem.2
    intro name hname
    rcases mem_references_iff.1 hname with rfl | ⟨child, hchild, hname⟩
    · exact href name rfl
    · rw [(h child hchild).references] at hname
      exact absurd hname List.not_mem_nil
  no_default inner value hwithin := by
    rcases Relation.ReflTransGen.cases_tail hwithin with rfl | ⟨child, hwithin, hchild⟩
    · exact hdefault inner value rfl
    · exact (h child hchild).no_default inner value hwithin

/-! ## Schemas -/

section Schemas

variable {ρ : Type} [Regex.Engine ρ] {s t : JsonSchema} {coerces denyUnknown : Bool}
  {pattern : Option ρ}

theorem stringSchema_coerce :
    (stringSchema coerces pattern).coerce = stringSchema true pattern := by
  cases coerces <;> cases pattern <;> rfl

theorem numberSchema_coerce : (numberSchema coerces).coerce = numberSchema true := by
  cases coerces <;> rfl

theorem integerSchema_coerce : (integerSchema coerces).coerce = integerSchema true := by
  cases coerces <;> rfl

theorem booleanSchema_coerce : (booleanSchema coerces).coerce = booleanSchema true := by
  cases coerces <;> rfl

theorem objectSchema_coerce {fields : List (String × JsonSchema)}
    (h : objectSchema fields denyUnknown = .ok s) : s.coerce = s := by
  obtain ⟨-, rfl⟩ := objectSchema_eq_ok_iff.1 h
  rfl

/-- The schema that tries its alternatives coerces by coercing each of them. -/
theorem unionSchema_coerce {others : List JsonSchema} :
    (unionSchema s others).coerce = unionSchema s.coerce (others.map Schema.coerce) := by
  induction others generalizing s with
  | nil => rfl
  | cons t rest ih => exact ih (s := s.or t)

end Schemas

/-! ## Denotations -/

/-- If each alternative denotes a schema that coerces, so does the union of them. -/
theorem Denotes.coerce_union {ρ : Type} [Regex.Engine ρ] {entries : List (String × Descriptor)}
    {ds : List Descriptor} {s : JsonSchema} {ss : List JsonSchema}
    (length : ds.length = (s :: ss).length)
    (items : ∀ item ∈ ds.zip (s :: ss), Denotes entries item.1.coerce item.2.coerce) :
    Denotes entries (Descriptor.union ds).coerce (unionSchema s ss).coerce := by
  rw [Descriptor.coerce, coerceItems_eq_map, unionSchema_coerce]
  refine .union ?_ ?_
  · simpa using length
  · rw [← List.map_cons, List.zip_map]
    exact List.forall_mem_map.2 items

/-- What coerces by its descriptor is what its schema comes to when it coerces. -/
theorem Denotes.coerce {ρ : Type} [Regex.Engine ρ] {entries : List (String × Descriptor)}
    {d : Descriptor} {s : JsonSchema} (hs : Denotes entries d s) (hd : d.IsSelfContained) :
    Denotes entries d.coerce s.coerce := by
  induction hs with
  | string coerces => exact stringSchema_coerce ▸ .string true
  | pattern coerces h => exact stringSchema_coerce ▸ .pattern true h
  | number coerces => exact numberSchema_coerce ▸ .number true
  | integer coerces => exact integerSchema_coerce ▸ .integer true
  | boolean coerces => exact booleanSchema_coerce ▸ .boolean true
  | datetime => exact .datetime
  | array items => exact .array items
  | set items => exact .set items
  | tuple length items => exact .tuple length items
  | object length items h =>
    rw [objectSchema_coerce h]
    exact .object length items h
  | indexed values => exact .indexed values
  | optional _ ih => exact .optional (ih (hd.child (List.mem_singleton_self _)))
  | nullable _ ih => exact .nullable (ih (hd.child (List.mem_singleton_self _)))
  | orDefault => exact absurd (.refl _) (hd.no_default _ _)
  | union length _ ih =>
    refine .coerce_union length fun item hitem ↦ ih item hitem ?_
    exact hd.child (List.of_mem_zip hitem).1
  | reference => exact absurd hd.references (List.cons_ne_nil _ _)

/-! ## Compilation -/

section Compilation

variable {ρ : Type} [Regex.Engine ρ] {d : Descriptor} {s : JsonSchema}
  {resolve : String → Compile JsonSchema} {path : String}
  {state after : CompilerState}

/-- Without references a descriptor compiles to what it denotes with nothing to refer to, and
nothing is remembered of it. -/
theorem denotes_of_compile (hrefs : d.references = [])
    (h : d.compile resolve path state = (.ok s, after)) : Denotes [] d s ∧ after = state := by
  have hcan : CanYield [] resolve (· = state) (fun _ ↦ True) d := by
    refine ⟨fun name hname ↦ ?_, fun _ _ _ _ _ ↦ trivial⟩
    rw [hrefs] at hname
    exact absurd hname List.not_mem_nil
  have hrun := compile_yields d path hcan state rfl
  rw [h] at hrun
  exact ⟨hrun.2, hrun.1⟩

/-- A descriptor without references and defaults that compiles does so too with all scalars set to
coerce, and then its schema is the schema of before made to coerce. -/
theorem compile_coerce (hd : d.IsSelfContained)
    (h : d.compile resolve path state = (.ok s, after)) :
    d.coerce.compile resolve path state = (.ok s.coerce, after) := by
  obtain ⟨hs, rfl⟩ := denotes_of_compile hd.references h
  exact (hs.coerce hd).compile_eq resolve path after

end Compilation

/-! ## A union of texts and a list -/

/-- One year or several; one year may also be written as a text of four digits. -/
def yearsDescriptor : Descriptor :=
  .union [.optional (.integer false), .nullable (.string false (some "[0-9]{4}")),
    .array (.integer false)]

theorem isSelfContained_yearsDescriptor : yearsDescriptor.IsSelfContained := by
  have hnumber : (integer false).IsSelfContained := .of_children nofun nofun nofun
  have htext : (string false (some "[0-9]{4}")).IsSelfContained := .of_children nofun nofun nofun
  refine .of_children nofun nofun (List.forall_mem_cons.2 ⟨?_, List.forall_mem_cons.2 ⟨?_, ?_⟩⟩)
  · exact .of_children nofun nofun (List.forall_mem_singleton.2 hnumber)
  · exact .of_children nofun nofun (List.forall_mem_singleton.2 htext)
  · refine List.forall_mem_singleton.2 ?_
    exact .of_children nofun nofun (List.forall_mem_singleton.2 hnumber)

theorem yearsDescriptor_compile_coerce :
    yearsDescriptor.coerce = .union [.optional (.integer true),
        .nullable (.string true (some "[0-9]{4}")), .array (.integer false)] ∧
      ∃ s, yearsDescriptor.compile (compileNamed []) "years" .empty = (.ok s, .empty) ∧
        yearsDescriptor.coerce.compile (compileNamed []) "years" .empty =
          (.ok s.coerce, .empty) := by
  have hcompile : ∃ s, yearsDescriptor.compile (compileNamed []) "years" .empty =
      (.ok s, .empty) := ⟨_, rfl⟩
  obtain ⟨s, hs⟩ := hcompile
  exact ⟨rfl, s, hs, compile_coerce isSelfContained_yearsDescriptor hs⟩

end Descriptor

end TwoWaySchema
