import TwoWaySchema.Proofs.Catalog.CompilerCourse

/-!
# The recursion of the compiler

A name is compiled with the names that its descriptor refers to, whose descriptors are looked up
among all of the source, also where references are cyclic.  No descriptor is looked up for a name in
progress, so each nested call has one more of the names of the source in progress and the calls are
not nested deeper than there are such names: what would happen beyond that depth has no effect.
-/

namespace TwoWaySchema

variable {ρ : Type} [Regex.Engine ρ] (entries : List (String × Descriptor))

/-- Compiles a name with all entries at hand; references are left to `resolve`. -/
def compileNamedBy (resolve : String → Compile JsonSchema) (name : String) : Compile JsonSchema :=
  fun state ↦
    match state.compiled.lookup name with
    | some schema => (.ok schema, state)
    | none =>
      if state.inProgress.contains name then
        (.error (.referenceCycle (state.inProgress ++ [name])), state)
      else
        match entries.lookup name with
        | none => (.error (.unknownSchema name), state)
        | some d => d.compileUnder name resolve state

/-- The recursion with all entries at hand, to a depth.  Calls at that depth do what `beyond`
does. -/
def compileNamedWithin (beyond : String → Compile JsonSchema) :
    (depth : Nat) → String → Compile JsonSchema
  | 0 => beyond
  | depth + 1 => compileNamedBy entries (compileNamedWithin beyond depth)

variable {entries}

/-- With the names of the stack in progress the recursion needs no more depth than there are entries
of other names. -/
theorem compileNamedWithin_eq_of_inProgress (beyond : String → Compile JsonSchema) {depth : Nat}
    {available : List (String × Descriptor)} {stack : List String}
    (hdepth : available.length < depth)
    (h : ∀ other, other ∉ stack → available.lookup other = entries.lookup other)
    (name : String) {s : CompilerState} (hs : s.inProgress = stack) :
    compileNamedWithin entries beyond depth name s = compileNamed available name s := by
  induction depth generalizing available stack name s with
  | zero => exact absurd hdepth (Nat.not_lt_zero _)
  | succ depth ih =>
    rw [compileNamedWithin, compileNamedBy, compileNamed_eq]
    cases s.compiled.lookup name with
    | some schema => rfl
    | none =>
      by_cases hmem : name ∈ stack
      · simp [hs, hmem]
      · simp only [hs, List.contains_iff_mem, if_neg hmem, h name hmem]
        cases hd : entries.lookup name with
        | none => rfl
        | some d =>
          -- The calls for references begin with this name as the innermost one in progress.
          have hshorter : (entriesBesides name available).length < depth :=
            Nat.lt_of_lt_of_le (length_entriesBesides_lt ((h name hmem).trans hd))
              (Nat.le_of_lt_succ hdepth)
          have hagrees (other : String) :
              Compile.Agrees (fun t ↦ t.inProgress = s.inProgress ++ [name]) (fun _ ↦ [])
                (compileNamedWithin entries beyond depth other) (fun _ ↦ [])
                (compileNamed (entriesBesides name available) other) := by
            intro t ht
            have hrun := ih hshorter (fun third hthird ↦ lookup_entriesBesides h hthird) other
              (hs ▸ ht)
            have hproceeds := compileNamed_proceeds (entriesBesides name available) other
              (fun _ _ hd ↦ hd) t
            exact ⟨rfl, hrun, hrun ▸ hproceeds.inProgress.trans ht⟩
          exact (Descriptor.compileUnder_congr hagrees).2

/-- Calls nest no deeper than by one more than there are entries. -/
theorem compileNamedWithin_eq (beyond : String → Compile JsonSchema) {depth : Nat}
    (hdepth : entries.length < depth) :
    compileNamedWithin entries beyond depth = compileNamed entries := by
  funext name s
  exact compileNamedWithin_eq_of_inProgress beyond hdepth (fun _ _ ↦ rfl) name rfl

/-- What is compiled with the entries of names that are not in progress is what the recursion with
all entries at hand comes to. -/
theorem compileNamedBy_compileNamed :
    compileNamedBy entries (compileNamed entries) = compileNamed entries := by
  have hshallow := compileNamedWithin_eq (compileNamed entries) (Nat.lt_succ_self entries.length)
  calc compileNamedBy entries (compileNamed entries)
      = compileNamedWithin entries (compileNamed entries) (entries.length + 2) := by
        rw [compileNamedWithin, hshallow]
    _ = compileNamed entries := compileNamedWithin_eq _ (by omega)

/-! ## What compilation comes to -/

/-- Compilation always ends: names compile as by the recursion with all descriptors at hand, and its
calls nest no deeper than by one more than there are names, whatever the deeper ones would do.  It
succeeds exactly on the sources in which every reference names a descriptor, references are acyclic
and nodes are well-formed; the catalog then has the names of the source.  The chain of a reported
cycle is a path of references that meets itself. -/
theorem CatalogSource.compile_characterized (source : CatalogSource) :
    compileNamed source.schemas.entries =
      compileNamedBy source.schemas.entries (compileNamed source.schemas.entries) ∧
    (∀ beyond depth, source.schemas.entries.length < depth →
      compileNamedWithin source.schemas.entries beyond depth =
        compileNamed source.schemas.entries) ∧
    ((∃ catalog, source.compile = .ok catalog) ↔
      source.IsClosed ∧ source.IsAcyclic ∧ source.HasWellFormedNodes) ∧
    (∀ catalog, source.compile = .ok catalog → catalog.names = source.schemas.keys) ∧
    (∀ chain, source.compile = .error (.referenceCycle chain) →
      IsCyclePath source.schemas.entries chain) := by
  refine ⟨compileNamedBy_compileNamed.symm, fun beyond _ ↦ compileNamedWithin_eq beyond,
    ⟨?_, ?_⟩, ?_, ?_⟩
  · rintro ⟨catalog, h⟩
    exact ⟨isClosed_of_compile h, isAcyclic_of_compile h, hasWellFormedNodes_of_compile h⟩
  · rintro ⟨hclosed, hacyclic, hnodes⟩
    exact exists_compile_of_wellFormed hclosed hacyclic hnodes
  · intro catalog h
    exact (compile_sound h).1
  · intro chain h
    cases compile_error_isJustified h with
    | cycle hcycle => exact hcycle

end TwoWaySchema
