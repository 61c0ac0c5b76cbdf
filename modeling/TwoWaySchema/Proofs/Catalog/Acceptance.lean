import TwoWaySchema.Proofs.Catalog.Compilation

/-!
# Which sources compile

A source compiles exactly when every reference names one of its descriptors, no name refers to
itself by way of others, and every node is well-formed.  A compiled catalog has the names of its
source and, under each, the schema that a reference to the name denotes.  A single name that denotes
a schema compiles to it, whatever is wrong with the others.
-/

namespace TwoWaySchema

variable {ρ : Type} [Regex.Engine ρ]

/-! ## References of denotations -/

section References

variable {entries : List (String × Descriptor)} {d : Descriptor} {s : JsonSchema} {name : String}

/-- A property of names that each name has if the names that its descriptor refers to have it
holds of all names on the way to a denoted schema. -/
theorem Descriptor.Denotes.forall_references {p : String → Prop}
    (hp : ∀ name d s, entries.lookup name = some d → Descriptor.Denotes entries d s →
      (∀ other ∈ d.references, p other) → p name)
    (hs : d.Denotes entries s) : ∀ name ∈ d.references, p name := by
  induction hs with
  | string | pattern | number | integer | boolean => simp [Descriptor.references]
  | datetime => simp [Descriptor.references]
  | array _ ih | set _ ih | indexed _ ih | optional _ ih | nullable _ ih | orDefault _ _ ih =>
    exact ih
  | tuple length _ ih | union length _ ih =>
    intro name h
    obtain ⟨item, hitem, hname⟩ := Descriptor.mem_referencesOfItems.1 h
    obtain ⟨t, ht⟩ := exists_mem_zip length hitem
    exact ih _ ht name hname
  | object length _ _ ih =>
    intro name h
    obtain ⟨item, hitem, hname⟩ := Descriptor.mem_referencesOfFields.1 h
    obtain ⟨t, ht⟩ := exists_mem_zip (by simpa using length) hitem
    exact ih _ ht name hname
  | reference hlookup target ih =>
    intro name h
    obtain rfl := List.mem_singleton.1 h
    exact hp name _ _ hlookup target ih

/-- No endless path of references starts in a descriptor that denotes a schema. -/
theorem Descriptor.Denotes.acc (hs : d.Denotes entries s) (h : name ∈ d.references) :
    Acc (fun other name ↦ Refers entries name other) name := by
  refine hs.forall_references (fun name d _ hd _ hall ↦ ⟨_, ?_⟩) name h
  rintro other ⟨e, he, hother⟩
  obtain rfl := Option.some.inj (hd.symm.trans he)
  exact hall other hother

theorem Descriptor.Denotes.reference_of_mem (hs : d.Denotes entries s)
    (h : name ∈ d.references) : ∃ t, Descriptor.Denotes entries (.reference name) t := by
  refine hs.forall_references (p := fun name ↦ ∃ t, Descriptor.Denotes entries (.reference name) t)
    (fun name d t hd ht _ ↦ ?_) name h
  exact ⟨t, .reference hd ht⟩

theorem not_transGen_of_acc
    (h : Acc (fun other name ↦ Refers entries name other) name) :
    ¬ Relation.TransGen (Refers entries) name name := by
  induction h with
  | intro name _ ih =>
    intro hcycle
    obtain ⟨next, hnext, hback⟩ := Relation.TransGen.head'_iff.1 hcycle
    exact ih next hnext (Relation.TransGen.tail' hback hnext)

theorem IsCyclePath.exists_transGen {chain : List String} (h : IsCyclePath entries chain) :
    ∃ name, Relation.TransGen (Refers entries) name name := by
  obtain ⟨hchain, before, name, rfl, hname⟩ := h
  have hpairwise : (before ++ [name]).Pairwise (Relation.TransGen (Refers entries)) :=
    List.isChain_iff_pairwise.1 (hchain.imp fun _ _ ↦ Relation.TransGen.single)
  exact ⟨name, (List.pairwise_append.1 hpairwise).2.2 name hname name (List.mem_singleton_self _)⟩

end References

/-! ## Names -/

section Names

variable {entries : List (String × Descriptor)} {name : String} {s : JsonSchema}

/-- A name that denotes a schema compiles where the names in progress lead to it. -/
theorem Descriptor.Denotes.compileNamed_yields (hs : Descriptor.Denotes entries (.reference name) s)
    {available : List (String × Descriptor)} {stack : List String}
    (havailable : ∀ other, other ∉ stack → available.lookup other = entries.lookup other)
    (hstack : ∀ other ∈ stack, Relation.TransGen (Refers entries) other name) :
    Compile.Yields (CompilerState.IsSound entries stack)
      (Descriptor.Denotes entries (.reference name)) (fun _ ↦ False)
      (compileNamed available name) := by
  have hacc := hs.acc (List.mem_singleton_self name)
  induction hacc generalizing s available stack with
  | intro name hsmaller ih =>
    have hname : name ∉ stack := fun hmem ↦
      not_transGen_of_acc ⟨name, hsmaller⟩ (hstack name hmem)
    cases hs with
    | @reference _ d _ hd target =>
      intro state hstate
      rw [compileNamed_eq]
      cases hcompiled : state.compiled.lookup name with
      | some schema => exact ⟨hstate, hstate.lookup hcompiled⟩
      | none =>
        rw [if_neg (by simpa [hstate.inProgress] using hname), havailable name hname, hd]
        refine compileUnder_yields hd (fun node hnode hbad ↦ ?_) (fun other hother ↦ ?_) state
          hstate
        · obtain ⟨t, ht⟩ := target.isWithin hnode
          exact absurd ht.isWellFormed hbad
        · have hstep : Refers entries name other := ⟨d, hd, hother⟩
          obtain ⟨t, ht⟩ := target.reference_of_mem hother
          refine ih other hstep ht (fun _ hthird ↦ lookup_entriesBesides havailable hthird) ?_
          refine List.forall_mem_append.2 ⟨fun third hthird ↦ (hstack third hthird).tail hstep, ?_⟩
          exact List.forall_mem_singleton.2 (.single hstep)

/-- What a name denotes is what it compiles to when nothing else is compiled. -/
theorem exists_compileNamed_empty_iff :
    (∃ after, compileNamed entries name .empty = (.ok s, after)) ↔
      Descriptor.Denotes entries (.reference name) s := by
  constructor
  · rintro ⟨after, h⟩
    have hrun : Compile.Ends (CompilerState.IsSound entries [])
        (Descriptor.Denotes entries (.reference name)) (fun _ ↦ True)
        (compileNamed entries name .empty) :=
      compileNamed_yields_any (List.isChain_singleton name) .empty .empty
    rw [h] at hrun
    exact hrun.2
  · intro hs
    have hrun : Compile.Ends (CompilerState.IsSound entries [])
        (Descriptor.Denotes entries (.reference name)) (fun _ ↦ False)
        (compileNamed entries name .empty) :=
      hs.compileNamed_yields (fun _ _ ↦ rfl) (by simp) .empty .empty
    cases hresult : compileNamed entries name .empty with
    | mk result after =>
      rw [hresult] at hrun
      cases result with
      | ok t => exact ⟨after, by rw [hrun.2.unique hs]⟩
      | error error => exact hrun.2.elim

end Names

/-! ## Sources -/

namespace CatalogSource

variable {source : CatalogSource}

/-- Every reference in a descriptor of the source names a descriptor of the source. -/
def IsClosed (source : CatalogSource) : Prop :=
  ∀ name other, Refers source.schemas.entries name other →
    ∃ d, source.schemas.entries.lookup other = some d

/-- No name refers to itself, not even by way of others. -/
def IsAcyclic (source : CatalogSource) : Prop :=
  ∀ name, ¬ Relation.TransGen (Refers source.schemas.entries) name name

/-- Every node anywhere in a descriptor of the source is well-formed. -/
def HasWellFormedNodes (source : CatalogSource) : Prop :=
  ∀ name root node, source.schemas.entries.lookup name = some root → node.IsWithin root →
    Descriptor.IsWellFormed source.schemas.entries node

theorem compile_run (source : CatalogSource) :
    Compile.Ends (CompilerState.IsSound source.schemas.entries [])
      (fun schemas ↦ schemas.map Prod.fst = source.schemas.keys ∧
        ∀ entry ∈ schemas,
          Descriptor.Denotes source.schemas.entries (.reference entry.1) entry.2)
      (CatalogError.IsJustified source.schemas.entries)
      (compileAll source.schemas.entries source.schemas.keys CompilerState.empty) :=
  compileAll_yields source.schemas.keys (fun _ hname ↦ exists_lookup_of_mem hname) _
    .empty

/-- A compiled catalog has the names of its source, each with what it denotes. -/
theorem compile_sound {catalog : Catalog} (h : source.compile = .ok catalog) :
    catalog.names = source.schemas.keys ∧
      ∀ entry ∈ catalog.schemas,
        Descriptor.Denotes source.schemas.entries (.reference entry.1) entry.2 := by
  have hrun := source.compile_run
  unfold compile at h
  split at h
  next schemas after heq =>
    rw [heq] at hrun
    cases h
    exact hrun.2
  next => cases h

theorem denotes_of_get {catalog : Catalog} {name : String} {s : JsonSchema}
    (h : source.compile = .ok catalog) (hs : catalog.get name = .ok s) :
    Descriptor.Denotes source.schemas.entries (.reference name) s := by
  unfold Catalog.get at hs
  split at hs
  next t ht =>
    cases hs
    exact (compile_sound h).2 (name, s) (mem_of_lookup_eq_some ht)
  next => cases hs

/-- A compiled catalog holds what each name denotes, and nothing else. -/
theorem get_eq_ok_iff {catalog : Catalog} {name : String} {s : JsonSchema}
    (h : source.compile = .ok catalog) :
    catalog.get name = .ok s ↔ Descriptor.Denotes source.schemas.entries (.reference name) s := by
  refine ⟨denotes_of_get h, fun hs ↦ ?_⟩
  cases hs with
  | reference hd target =>
    have hname : name ∈ catalog.names := by
      rw [(compile_sound h).1]
      exact List.mem_map_of_mem (mem_of_lookup_eq_some hd)
    obtain ⟨t, ht⟩ := exists_lookup_of_mem hname
    have hget : catalog.get name = .ok t := by
      unfold Catalog.get
      rw [ht]
    rw [hget, (denotes_of_get h hget).unique (.reference hd target)]

/-- Every error has its reason in the source. -/
theorem compile_error_isJustified {error : CatalogError} (h : source.compile = .error error) :
    error.IsJustified source.schemas.entries := by
  have hrun := source.compile_run
  unfold compile at h
  split at h
  next => cases h
  next error' after heq =>
    rw [heq] at hrun
    cases h
    exact hrun.2

/-- Every name of the source denotes a schema. -/
def IsDenoting (source : CatalogSource) : Prop :=
  ∀ name ∈ source.schemas.keys, ∃ s, Descriptor.Denotes source.schemas.entries (.reference name) s

namespace IsDenoting

theorem exists_denotes {name : String} {d : Descriptor} (h : source.IsDenoting)
    (hd : source.schemas.entries.lookup name = some d) :
    ∃ s, Descriptor.Denotes source.schemas.entries d s := by
  have hname : name ∈ source.schemas.keys := List.mem_map_of_mem (mem_of_lookup_eq_some hd)
  obtain ⟨s, hs⟩ := h name hname
  cases hs with
  | reference hd' target =>
    obtain rfl := Option.some.inj (hd.symm.trans hd')
    exact ⟨s, target⟩

theorem isClosed (h : source.IsDenoting) : source.IsClosed := by
  rintro name other ⟨d, hd, hother⟩
  obtain ⟨s, hs⟩ := h.exists_denotes hd
  obtain ⟨t, ht⟩ := hs.reference_of_mem hother
  cases ht with
  | reference hlookup _ => exact ⟨_, hlookup⟩

theorem isAcyclic (h : source.IsDenoting) : source.IsAcyclic := by
  intro name hcycle
  obtain ⟨other, ⟨d, hd, hother⟩, hback⟩ := Relation.TransGen.head'_iff.1 hcycle
  obtain ⟨s, hs⟩ := h.exists_denotes hd
  exact not_transGen_of_acc (hs.acc hother) (Relation.TransGen.tail' hback ⟨d, hd, hother⟩)

theorem hasWellFormedNodes (h : source.IsDenoting) : source.HasWellFormedNodes := by
  intro name root node hroot hnode
  obtain ⟨s, hs⟩ := h.exists_denotes hroot
  obtain ⟨t, ht⟩ := hs.isWithin hnode
  exact ht.isWellFormed

end IsDenoting

theorem isDenoting_of_compile {catalog : Catalog} (h : source.compile = .ok catalog) :
    source.IsDenoting := by
  intro name hname
  rw [← (compile_sound h).1] at hname
  obtain ⟨entry, hentry, rfl⟩ := List.mem_map.1 hname
  exact ⟨entry.2, (compile_sound h).2 entry hentry⟩

theorem exists_denotes_of_lookup {catalog : Catalog} {name : String} {d : Descriptor}
    (h : source.compile = .ok catalog) (hd : source.schemas.entries.lookup name = some d) :
    ∃ s, Descriptor.Denotes source.schemas.entries d s :=
  (isDenoting_of_compile h).exists_denotes hd

theorem isClosed_of_compile {catalog : Catalog} (h : source.compile = .ok catalog) :
    source.IsClosed :=
  (isDenoting_of_compile h).isClosed

theorem isAcyclic_of_compile {catalog : Catalog} (h : source.compile = .ok catalog) :
    source.IsAcyclic :=
  (isDenoting_of_compile h).isAcyclic

theorem hasWellFormedNodes_of_compile {catalog : Catalog} (h : source.compile = .ok catalog) :
    source.HasWellFormedNodes :=
  (isDenoting_of_compile h).hasWellFormedNodes

/-- No error has a reason in a source where all is in order. -/
theorem not_isJustified (hclosed : source.IsClosed) (hacyclic : source.IsAcyclic)
    (hnodes : source.HasWellFormedNodes) (error : CatalogError) :
    ¬ error.IsJustified source.schemas.entries := by
  intro h
  cases h with
  | unknown hrefers hnone =>
    obtain ⟨d, hd⟩ := hclosed _ _ hrefers
    rw [hnone] at hd
    cases hd
  | fault hroot hnode hbad => exact hbad (hnodes _ _ _ hroot hnode)
  | cycle hcycle =>
    obtain ⟨name, hname⟩ := hcycle.exists_transGen
    exact hacyclic name hname

theorem exists_compile_of_wellFormed (hclosed : source.IsClosed) (hacyclic : source.IsAcyclic)
    (hnodes : source.HasWellFormedNodes) : ∃ catalog, source.compile = .ok catalog := by
  cases h : source.compile with
  | ok catalog => exact ⟨catalog, rfl⟩
  | error error =>
    exact absurd (compile_error_isJustified h) (not_isJustified hclosed hacyclic hnodes error)

/-- A source compiles if and only if every name in it denotes a schema. -/
theorem exists_compile_iff_isDenoting :
    (∃ catalog, source.compile = .ok catalog) ↔ source.IsDenoting := by
  refine ⟨fun ⟨_, h⟩ ↦ isDenoting_of_compile h, fun h ↦ ?_⟩
  exact exists_compile_of_wellFormed h.isClosed h.isAcyclic h.hasWellFormedNodes

end CatalogSource

end TwoWaySchema
