import TwoWaySchema.Proofs.Catalog.Acceptance
import TwoWaySchema.Proofs.Catalog.RoundTrip

/-!
# References inlined

In a source that compiles every reference can be replaced by the descriptor that it names, again
and again, until none is left.  The descriptor without references compiles, with nothing to refer
to, to the very schema that the catalog holds.  So what the compiler remembers and the order in
which it meets the names have no say in any schema.
-/

namespace TwoWaySchema

namespace Descriptor

/-! ## Substitution -/

mutual

/-- The descriptor with what is given for its name in the place of each reference. -/
def substitute (f : String → Descriptor) : Descriptor → Descriptor
  | string coerces pattern => string coerces pattern
  | number coerces => number coerces
  | integer coerces => integer coerces
  | boolean coerces => boolean coerces
  | datetime => datetime
  | array a => array (substitute f a)
  | set a => set (substitute f a)
  | tuple as => tuple (substituteItems f as)
  | object fields denyUnknown => object (substituteFields f fields) denyUnknown
  | indexed a => indexed (substitute f a)
  | optional a => optional (substitute f a)
  | nullable a => nullable (substitute f a)
  | orDefault a value => orDefault (substitute f a) value
  | union as => union (substituteItems f as)
  | reference name => f name

def substituteItems (f : String → Descriptor) : List Descriptor → List Descriptor
  | [] => []
  | a :: rest => substitute f a :: substituteItems f rest

def substituteFields (f : String → Descriptor) :
    List (String × Descriptor) → List (String × Descriptor)
  | [] => []
  | (name, a) :: rest => (name, substitute f a) :: substituteFields f rest

end

section Substitution

variable {f g : String → Descriptor}

theorem substituteItems_eq_map (items : List Descriptor) :
    substituteItems f items = items.map (substitute f) := by
  induction items with
  | nil => rfl
  | cons item rest ih => rw [substituteItems, ih, List.map_cons]

theorem substituteFields_eq_map (fields : List (String × Descriptor)) :
    substituteFields f fields = fields.map fun field ↦ (field.1, field.2.substitute f) := by
  induction fields with
  | nil => rfl
  | cons field rest ih => rw [substituteFields, ih, List.map_cons]

mutual

/-- Only what is given for the names that a descriptor refers to matters. -/
theorem substitute_congr : (d : Descriptor) → (∀ name ∈ d.references, f name = g name) →
    d.substitute f = d.substitute g
  | .string _ _, _ | .number _, _ | .integer _, _ | .boolean _, _ | .datetime, _ => rfl
  | .array a, h => congrArg array (substitute_congr a h)
  | .set a, h => congrArg set (substitute_congr a h)
  | .tuple as, h => congrArg tuple (substituteItems_congr as h)
  | .object fields denyUnknown, h =>
    congrArg (object · denyUnknown) (substituteFields_congr fields h)
  | .indexed a, h => congrArg indexed (substitute_congr a h)
  | .optional a, h => congrArg optional (substitute_congr a h)
  | .nullable a, h => congrArg nullable (substitute_congr a h)
  | .orDefault a value, h => congrArg (orDefault · value) (substitute_congr a h)
  | .union as, h => congrArg union (substituteItems_congr as h)
  | .reference name, h => h name (List.mem_singleton_self name)

theorem substituteItems_congr : (items : List Descriptor) →
    (∀ name ∈ referencesOfItems items, f name = g name) →
    substituteItems f items = substituteItems g items
  | [], _ => rfl
  | a :: rest, h => by
    obtain ⟨ha, hrest⟩ := List.forall_mem_append.1 h
    rw [substituteItems, substituteItems, substitute_congr a ha, substituteItems_congr rest hrest]

theorem substituteFields_congr : (fields : List (String × Descriptor)) →
    (∀ name ∈ referencesOfFields fields, f name = g name) →
    substituteFields f fields = substituteFields g fields
  | [], _ => rfl
  | (name, a) :: rest, h => by
    obtain ⟨ha, hrest⟩ := List.forall_mem_append.1 h
    rw [substituteFields, substituteFields, substitute_congr a ha,
      substituteFields_congr rest hrest]

end

end Substitution

/-- The descriptor of a name with references replaced by the descriptors that they name, and so on
inside these.  A name inside its own descriptor is left as it is, which ends the replacing also
where references go round in circles. -/
def inlined (available : List (String × Descriptor)) (name : String) : Descriptor :=
  match _h : available.lookup name with
  | some d => d.substitute (inlined (entriesBesides name available))
  | none => .reference name
termination_by available.length
decreasing_by exact length_entriesBesides_lt _h

section Inlined

variable {available entries : List (String × Descriptor)} {name : String} {d : Descriptor}

theorem inlined_of_lookup (h : available.lookup name = some d) :
    inlined available name = d.substitute (inlined (entriesBesides name available)) := by
  rw [inlined]
  split
  next e he =>
    rw [Option.some.inj (he.symm.trans h)]
  next hnone => cases hnone.symm.trans h

theorem inlined_of_lookup_eq_none (h : available.lookup name = none) :
    inlined available name = .reference name := by
  rw [inlined]
  split
  next e he => cases he.symm.trans h
  next => rfl

/-- Without circles, entries that the name does not lead to make no difference. -/
theorem inlined_eq_of_lookup_eq (hacc : Acc (fun other name ↦ Refers entries name other) name)
    (h : ∀ other, Relation.ReflTransGen (Refers entries) name other →
      available.lookup other = entries.lookup other) :
    inlined available name = inlined entries name := by
  induction hacc generalizing available with
  | intro name hsmaller ih =>
    have hname : available.lookup name = entries.lookup name := h name .refl
    have hcycle : ¬ Relation.TransGen (Refers entries) name name :=
      not_transGen_of_acc ⟨name, hsmaller⟩
    cases hd : entries.lookup name with
    | none => rw [inlined_of_lookup_eq_none hd, inlined_of_lookup_eq_none (hname.trans hd)]
    | some d =>
      -- Below `name` both lists lose its entry, which nothing there leads back to.
      have hbelow : ∀ {known : List (String × Descriptor)},
          (∀ other, Relation.ReflTransGen (Refers entries) name other →
            known.lookup other = entries.lookup other) →
          ∀ next ∈ d.references,
            inlined (entriesBesides name known) next = inlined entries next := by
        intro known hknown next hnext
        have hstep : Refers entries name next := ⟨d, hd, hnext⟩
        refine ih next hstep fun other hother ↦ ?_
        have hne : other ≠ name := by
          rintro rfl
          exact hcycle (.head' hstep hother)
        rw [entriesBesides, lookup_filter_of_ne hne]
        exact hknown other (.head hstep hother)
      rw [inlined_of_lookup hd, inlined_of_lookup (hname.trans hd)]
      apply substitute_congr
      intro next hnext
      exact (hbelow h next hnext).trans (hbelow (fun _ _ ↦ rfl) next hnext).symm

/-- A name stands for its descriptor with every reference inlined. -/
theorem inlined_eq_substitute (hacc : Acc (fun other name ↦ Refers entries name other) name)
    (hd : entries.lookup name = some d) :
    inlined entries name = d.substitute (inlined entries) := by
  rw [inlined_of_lookup hd]
  apply substitute_congr
  intro next hnext
  have hstep : Refers entries name next := ⟨d, hd, hnext⟩
  refine inlined_eq_of_lookup_eq (hacc.inv hstep) fun other hother ↦ lookup_filter_of_ne ?_
  rintro rfl
  exact not_transGen_of_acc hacc (.head' hstep hother)

end Inlined

/-! ## Denotations -/

/-- What is given for the names that a descriptor refers to denotes, with nothing to refer to, what
the names denote. -/
def AreGivenIn {ρ : Type} [Regex.Engine ρ] (f : String → Descriptor)
    (entries : List (String × Descriptor)) (names : List String) : Prop :=
  ∀ name ∈ names, ∀ t, Denotes entries (.reference name) t → Denotes [] (f name) t

namespace Denotes

variable {ρ : Type} [Regex.Engine ρ] {entries : List (String × Descriptor)} {d : Descriptor}
  {s : JsonSchema} {name : String} {f : String → Descriptor}

/-- Substitution side by side with the schemas of the parts. -/
theorem substitute_zip {ds : List Descriptor} {ss : List JsonSchema}
    (h : ∀ item ∈ ds.zip ss, AreGivenIn f entries item.1.references →
      Denotes [] (item.1.substitute f) item.2)
    (hf : ∀ child ∈ ds, AreGivenIn f entries child.references) :
    ∀ item ∈ (ds.map (Descriptor.substitute f)).zip ss, Denotes [] item.1 item.2 := by
  rw [List.zip_map_left]
  refine List.forall_mem_map.2 fun item hitem ↦ ?_
  exact h item hitem (hf _ (List.of_mem_zip hitem).1)

/-- A descriptor with references that denote the same denotes the same. -/
theorem substitute (hs : Denotes entries d s) (hf : AreGivenIn f entries d.references) :
    Denotes [] (d.substitute f) s := by
  induction hs with
  | string coerces => exact .string coerces
  | pattern coerces h => exact .pattern coerces h
  | number coerces => exact .number coerces
  | integer coerces => exact .integer coerces
  | boolean coerces => exact .boolean coerces
  | datetime => exact .datetime
  | array _ ih => exact .array (ih hf)
  | set _ ih => exact .set (ih hf)
  | indexed _ ih => exact .indexed (ih hf)
  | optional _ ih => exact .optional (ih hf)
  | nullable _ ih => exact .nullable (ih hf)
  | orDefault _ h ih => exact .orDefault (ih hf) h
  | @tuple ds t ts length _ ih =>
    have hitems := substitute_zip ih fun child hchild name hname ↦
      hf name (mem_referencesOfItems.2 ⟨child, hchild, hname⟩)
    rw [Descriptor.substitute, substituteItems_eq_map]
    exact .tuple (by rw [List.length_map, length]) hitems
  | @union ds t ts length _ ih =>
    have hitems := substitute_zip ih fun child hchild name hname ↦
      hf name (mem_referencesOfItems.2 ⟨child, hchild, hname⟩)
    rw [Descriptor.substitute, substituteItems_eq_map]
    exact .union (by rw [List.length_map, length]) hitems
  | @object fields denyUnknown ts t length _ h ih =>
    have hitems := substitute_zip ih fun child hchild name hname ↦
      hf name (mem_referencesOfFields.2 ⟨child, hchild, hname⟩)
    rw [Descriptor.substitute, substituteFields_eq_map]
    refine @Denotes.object _ _ _ _ _ ts _ (by rw [List.length_map, length]) ?_ ?_
    · rw [List.map_map] at hitems ⊢
      exact hitems
    · rw [List.map_map]
      exact h
  | reference h target => exact hf _ (List.mem_singleton_self _) _ (.reference h target)

/-- What a name denotes its inlined descriptor denotes with nothing to refer to. -/
theorem inlined (hs : Denotes entries (.reference name) s) :
    Denotes [] (Descriptor.inlined entries name) s := by
  have hacc := hs.acc (List.mem_singleton_self name)
  induction hacc generalizing s with
  | intro name hsmaller ih =>
    cases hs with
    | reference hd target =>
      rw [inlined_eq_substitute ⟨name, hsmaller⟩ hd]
      exact target.substitute fun next hnext t ht ↦ ih next ⟨_, hd, hnext⟩ ht

theorem references_eq_nil (hs : Denotes [] d s) : d.references = [] := by
  apply List.eq_nil_iff_forall_not_mem.2
  exact hs.forall_references (p := fun _ ↦ False) fun name d s h ↦ by cases h

/-- A descriptor without references compiles to what it denotes, whoever resolves references. -/
theorem compile_eq (hs : Denotes [] d s) (resolve : String → Compile JsonSchema) (path : String)
    (state : CompilerState) : d.compile resolve path state = (.ok s, state) := by
  have hcan : CanYield [] resolve (· = state) (fun _ ↦ False) d := by
    refine ⟨fun name hname ↦ ?_, fun node hnode hbad ↦ ?_⟩
    · rw [hs.references_eq_nil] at hname
      cases hname
    · obtain ⟨t, ht⟩ := hs.isWithin hnode
      exact absurd ht.isWellFormed hbad
  have hrun := compile_yields d path hcan state rfl
  cases hresult : d.compile resolve path state with
  | mk result after =>
    rw [hresult] at hrun
    cases result with
    | ok t =>
      obtain ⟨rfl, ht⟩ := hrun
      rw [hs.unique ht]
    | error => exact hrun.2.elim

end Denotes

end Descriptor

/-! ## Catalogs -/

/-- Names in any order, and any number of times, compile to what the catalog holds. -/
theorem CatalogSource.compileAll_eq_ok {ρ : Type} [Regex.Engine ρ] {source : CatalogSource}
    {catalog : Catalog} (h : source.compile = .ok catalog) {names : List String}
    (hnames : ∀ name ∈ names, name ∈ source.schemas.keys) :
    ∃ schemas after, compileAll source.schemas.entries names .empty = (.ok schemas, after) ∧
      schemas.map Prod.fst = names ∧ ∀ entry ∈ schemas, catalog.get entry.1 = .ok entry.2 := by
  have hrun := compileAll_yields names (fun name hname ↦ exists_lookup_of_mem (hnames name hname))
    .empty .empty
  cases hresult : compileAll source.schemas.entries names .empty with
  | mk result after =>
    rw [hresult] at hrun
    cases result with
    | ok schemas =>
      refine ⟨schemas, after, rfl, hrun.2.1, fun entry hentry ↦ ?_⟩
      exact (get_eq_ok_iff h).2 (hrun.2.2 entry hentry)
    | error error =>
      exact absurd hrun.2 (not_isJustified (isClosed_of_compile h) (isAcyclic_of_compile h)
        (hasWellFormedNodes_of_compile h) error)

namespace Catalog

open Descriptor

/-- References are transparent.  In a source that compiles every name stands for its descriptor
with all references inlined, which has none; compiled with nothing to refer to it gives the very
schema of the catalog.  So do the names of the source, compiled in any order and with what was
remembered for others. -/
theorem inlined_compile_eq {ρ : Type} [Regex.Engine ρ] {source : CatalogSource} {catalog : Catalog}
    {name : String} {s : JsonSchema} (h : source.compile = .ok catalog)
    (hs : catalog.get name = .ok s) :
    (∀ other d, source.schemas.entries.lookup other = some d →
      inlined source.schemas.entries other = d.substitute (inlined source.schemas.entries)) ∧
    (inlined source.schemas.entries name).references = [] ∧
    (∀ path, (inlined source.schemas.entries name).compile (compileNamed []) path .empty =
      (.ok s, .empty)) ∧
    ∀ names, (∀ other ∈ names, other ∈ source.schemas.keys) →
      ∃ schemas after, compileAll source.schemas.entries names .empty = (.ok schemas, after) ∧
        schemas.map Prod.fst = names ∧ ∀ entry ∈ schemas, catalog.get entry.1 = .ok entry.2 := by
  have hdenotes := (CatalogSource.denotes_of_get h hs).inlined
  refine ⟨fun other d hd ↦ ?_, hdenotes.references_eq_nil, fun path ↦ ?_, fun names hnames ↦ ?_⟩
  · obtain ⟨t, ht⟩ := CatalogSource.exists_denotes_of_lookup h hd
    have hother := Denotes.reference hd ht
    exact inlined_eq_substitute (hother.acc (List.mem_singleton_self other)) hd
  · exact hdenotes.compile_eq (compileNamed []) path .empty
  · exact CatalogSource.compileAll_eq_ok h hnames

/-! ## The entries of a small catalog, inlined -/

theorem inlined_entry :
    inlined entrySource.schemas.entries "entry" =
      .object [("label", .optional (.string true none)),
        ("mark", .orDefault (.boolean false) (.bool false))] true := by
  have hentry : entrySource.schemas.entries.lookup "entry" =
      some (.object [("label", .optional (.reference "text")),
        ("mark", .orDefault (.boolean false) (.bool false))] true) := rfl
  have htext : (entriesBesides "entry" entrySource.schemas.entries).lookup "text" =
      some (.string true none) := rfl
  rw [inlined_of_lookup hentry]
  simp only [substitute, substituteFields, inlined_of_lookup htext]

theorem entry_compiles_inlined :
    entrySource.compile = .ok entryCatalog ∧ entryCatalog.get "entry" = .ok entrySchema ∧
      (∀ path, (Descriptor.object [("label", .optional (.string true none)),
          ("mark", .orDefault (.boolean false) (.bool false))] true).compile
            (compileNamed []) path .empty = (.ok entrySchema, .empty)) ∧
      ∃ schemas after, compileAll entrySource.schemas.entries ["text", "entry", "text"] .empty =
          (.ok schemas, after) ∧ schemas.map Prod.fst = ["text", "entry", "text"] ∧
        ∀ entry ∈ schemas, entryCatalog.get entry.1 = .ok entry.2 := by
  have hget : entryCatalog.get "entry" = .ok entrySchema := rfl
  obtain ⟨-, -, hcompile, horder⟩ := inlined_compile_eq compile_entrySource hget
  rw [inlined_entry] at hcompile
  refine ⟨compile_entrySource, hget, hcompile, horder _ ?_⟩
  simp [entrySource, SortedMap.keys]

end Catalog

end TwoWaySchema
