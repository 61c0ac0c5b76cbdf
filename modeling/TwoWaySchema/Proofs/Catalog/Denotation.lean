import Mathlib.Logic.Relation
import TwoWaySchema.Catalog
import TwoWaySchema.Proofs.List

/-!
# What descriptors denote

The schema of a descriptor is determined by the descriptors under the names that it refers to, and
by nothing else.  `Descriptor.Denotes` says so without a compiler: one rule for each kind of
descriptor, and one for references, which follows the name.  A derivation is finite, so a
descriptor on a cycle of references denotes nothing, and induction on derivations goes through
references.  What is proved about compiled schemas is proved by that induction.
-/

namespace TwoWaySchema.Descriptor

/-! ## Children -/

/-- The descriptors directly inside a descriptor, from left to right. -/
def children : Descriptor → List Descriptor
  | array a | set a | indexed a | optional a | nullable a | orDefault a _ => [a]
  | tuple as | union as => as
  | object fields _ => fields.map Prod.snd
  | string _ _ | number _ | integer _ | boolean _ | datetime | reference _ => []

/-- The first descriptor is the second one or stands anywhere inside it. -/
def IsWithin : Descriptor → Descriptor → Prop :=
  Relation.ReflTransGen fun d outer ↦ d ∈ outer.children

theorem IsWithin.refl (d : Descriptor) : d.IsWithin d :=
  Relation.ReflTransGen.refl

theorem IsWithin.child {d child outer : Descriptor} (hd : d.IsWithin child)
    (hchild : child ∈ outer.children) : d.IsWithin outer :=
  Relation.ReflTransGen.tail hd hchild

theorem mem_referencesOfItems {name : String} {items : List Descriptor} :
    name ∈ referencesOfItems items ↔ ∃ d ∈ items, name ∈ d.references := by
  induction items with
  | nil => simp [referencesOfItems]
  | cons item rest ih => simp [referencesOfItems, ih]

theorem mem_referencesOfFields {name : String} {fields : List (String × Descriptor)} :
    name ∈ referencesOfFields fields ↔ ∃ d ∈ fields.map Prod.snd, name ∈ d.references := by
  induction fields with
  | nil => simp [referencesOfFields]
  | cons field rest ih => simp [referencesOfFields, ih]

/-- A descriptor refers to what its children refer to, and a reference to its name. -/
theorem mem_references_iff {name : String} {d : Descriptor} :
    name ∈ d.references ↔ d = .reference name ∨ ∃ child ∈ d.children, name ∈ child.references := by
  cases d <;>
    simp [references, children, mem_referencesOfItems, mem_referencesOfFields, eq_comm (a := name)]

theorem references_subset_of_mem_children {child d : Descriptor} (h : child ∈ d.children) :
    child.references ⊆ d.references := fun _ hname ↦
  mem_references_iff.2 (.inr ⟨child, h, hname⟩)

/-! ## Denotation -/

variable {ρ : Type} [Regex.Engine ρ]

/-- The schema that a descriptor stands for when its references are looked up in `entries`. -/
inductive Denotes (entries : List (String × Descriptor)) : Descriptor → JsonSchema → Prop where
  | string (coerces : Bool) : Denotes entries (.string coerces none) (stringSchema coerces none)
  | pattern (coerces : Bool) {source : String} {regex : ρ}
      (h : Regex.Engine.compile source = .ok regex) :
      Denotes entries (.string coerces (some source)) (stringSchema coerces (some regex))
  | number (coerces : Bool) : Denotes entries (.number coerces) (numberSchema coerces)
  | integer (coerces : Bool) : Denotes entries (.integer coerces) (integerSchema coerces)
  | boolean (coerces : Bool) : Denotes entries (.boolean coerces) (booleanSchema coerces)
  | datetime : Denotes entries .datetime datetimeSchema
  | array {d : Descriptor} {s : JsonSchema} (items : Denotes entries d s) :
      Denotes entries (.array d) (arraySchema s)
  | set {d : Descriptor} {s : JsonSchema} (items : Denotes entries d s) :
      Denotes entries (.set d) (setSchema s)
  | tuple {ds : List Descriptor} {s : JsonSchema} {ss : List JsonSchema}
      (length : ds.length = (s :: ss).length)
      (items : ∀ item ∈ ds.zip (s :: ss), Denotes entries item.1 item.2) :
      Denotes entries (.tuple ds) (.sequence (s :: ss))
  | object {fields : List (String × Descriptor)} {denyUnknown : Bool} {ss : List JsonSchema}
      {s : JsonSchema} (length : fields.length = ss.length)
      (items : ∀ item ∈ (fields.map Prod.snd).zip ss, Denotes entries item.1 item.2)
      (h : objectSchema ((fields.map Prod.fst).zip ss) denyUnknown = .ok s) :
      Denotes entries (.object fields denyUnknown) s
  | indexed {d : Descriptor} {s : JsonSchema} (values : Denotes entries d s) :
      Denotes entries (.indexed d) (indexedSchema s)
  | optional {d : Descriptor} {s : JsonSchema} (inner : Denotes entries d s) :
      Denotes entries (.optional d) (optionalSchema s)
  | nullable {d : Descriptor} {s : JsonSchema} (inner : Denotes entries d s) :
      Denotes entries (.nullable d) (nullableSchema s)
  | orDefault {d : Descriptor} {s : JsonSchema} {raw value : Json} (inner : Denotes entries d s)
      (h : s.parse raw = .ok value) : Denotes entries (.orDefault d raw) (s.orDefault value)
  | union {ds : List Descriptor} {s : JsonSchema} {ss : List JsonSchema}
      (length : ds.length = (s :: ss).length)
      (items : ∀ item ∈ ds.zip (s :: ss), Denotes entries item.1 item.2) :
      Denotes entries (.union ds) (unionSchema s ss)
  | reference {name : String} {d : Descriptor} {s : JsonSchema}
      (h : entries.lookup name = some d) (target : Denotes entries d s) :
      Denotes entries (.reference name) s

namespace Denotes

variable {entries : List (String × Descriptor)} {d : Descriptor} {s t : JsonSchema}

/-- Lists of schemas that agree with the schemas of the same descriptors are the same. -/
theorem eq_of_zip {ds : List Descriptor} {ss ts : List JsonSchema}
    (hs : ds.length = ss.length) (ht : ds.length = ts.length)
    (hunique : ∀ item ∈ ds.zip ss, ∀ u, Denotes entries item.1 u → item.2 = u)
    (hts : ∀ item ∈ ds.zip ts, Denotes entries item.1 item.2) : ss = ts := by
  induction ds generalizing ss ts with
  | nil =>
    rw [List.eq_nil_of_length_eq_zero hs.symm, List.eq_nil_of_length_eq_zero ht.symm]
  | cons d ds ih =>
    obtain ⟨s, ss, rfl⟩ := List.exists_cons_of_length_eq_add_one hs.symm
    obtain ⟨t, ts, rfl⟩ := List.exists_cons_of_length_eq_add_one ht.symm
    simp only [List.zip_cons_cons, List.forall_mem_cons] at hunique hts
    have hhead : s = t := hunique.1 t hts.1
    have htail : ss = ts := ih (by simpa using hs) (by simpa using ht) hunique.2 hts.2
    rw [hhead, htail]

/-- A descriptor denotes at most one schema. -/
theorem unique (hs : Denotes entries d s) (ht : Denotes entries d t) : s = t := by
  induction hs generalizing t with
  | string | number | integer | boolean => cases ht; rfl
  | datetime => cases ht; rfl
  | pattern coerces h =>
    cases ht with
    | pattern _ h' => rw [Except.ok.inj (h.symm.trans h')]
  | array _ ih => cases ht with | array items' => rw [ih items']
  | set _ ih => cases ht with | set items' => rw [ih items']
  | indexed _ ih => cases ht with | indexed values' => rw [ih values']
  | optional _ ih => cases ht with | optional inner' => rw [ih inner']
  | nullable _ ih => cases ht with | nullable inner' => rw [ih inner']
  | tuple length _ ih =>
    cases ht with
    | tuple length' items' =>
      rw [eq_of_zip length length' (fun item hitem u hu ↦ ih item hitem hu) items']
  | union length _ ih =>
    cases ht with
    | union length' items' =>
      obtain ⟨rfl, rfl⟩ := List.cons.inj
        (eq_of_zip length length' (fun item hitem u hu ↦ ih item hitem hu) items')
      rfl
  | object length _ h ih =>
    cases ht with
    | object length' items' h' =>
      have hss := eq_of_zip (by simpa using length) (by simpa using length')
        (fun item hitem u hu ↦ ih item hitem hu) items'
      subst hss
      exact Except.ok.inj (h.symm.trans h')
  | orDefault _ h ih =>
    cases ht with
    | orDefault inner' h' =>
      obtain rfl := ih inner'
      rw [Except.ok.inj (h.symm.trans h')]
  | reference h _ ih =>
    cases ht with
    | reference h' target' =>
      obtain rfl := Option.some.inj (h.symm.trans h')
      exact ih target'

theorem exists_of_mem_zip {ds : List Descriptor} {ss : List JsonSchema} {child : Descriptor}
    (length : ds.length = ss.length)
    (items : ∀ item ∈ ds.zip ss, Denotes entries item.1 item.2) (h : child ∈ ds) :
    ∃ t, Denotes entries child t := by
  obtain ⟨t, ht⟩ := exists_mem_zip length h
  exact ⟨t, items _ ht⟩

/-- The children of a descriptor that denotes a schema denote schemas. -/
theorem child (hs : Denotes entries d s) {child : Descriptor} (h : child ∈ d.children) :
    ∃ t, Denotes entries child t := by
  cases hs with
  | string | pattern | number | integer | boolean | reference => simp [children] at h
  | datetime => simp [children] at h
  | array inner | set inner | indexed inner | optional inner | nullable inner
  | orDefault inner =>
    obtain rfl := List.mem_singleton.1 h
    exact ⟨_, inner⟩
  | tuple length items | union length items => exact exists_of_mem_zip length items h
  | object length items => exact exists_of_mem_zip (by simpa using length) items h

theorem isWithin {outer : Descriptor} (hs : Denotes entries outer s) (h : d.IsWithin outer) :
    ∃ t, Denotes entries d t := by
  induction h generalizing s with
  | refl => exact ⟨s, hs⟩
  | tail _ hchild ih =>
    obtain ⟨t, ht⟩ := hs.child hchild
    exact ih ht

end Denotes

end TwoWaySchema.Descriptor
