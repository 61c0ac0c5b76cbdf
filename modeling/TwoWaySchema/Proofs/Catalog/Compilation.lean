import Mathlib.Data.List.Chain
import TwoWaySchema.Proofs.Catalog.Denotation
import TwoWaySchema.Proofs.Catalog.ObjectFields
import TwoWaySchema.Proofs.Lookup

/-!
# Compiling a catalog

The compiler computes denotations.  Whatever it remembers under a name is what a reference to the
name denotes, and every error it gives has a reason in the source: a reference to a name without a
descriptor, a node that is not well-formed, or a path of references that meets itself.  The names
in progress are always such a path, so a name met again closes a cycle.  Conversely a source
without reasons for errors compiles, and in a source that compiles references are well-founded.
-/

namespace TwoWaySchema

/-! ## Runs of the compiler -/

namespace Compile

variable {α β : Type 1} {inv : CompilerState → Prop} {bad : CatalogError → Prop}

/-- A computation ended in a state with `inv`, with a result that is `good` or an error that is
`bad`. -/
def Ends (inv : CompilerState → Prop) (good : α → Prop) (bad : CatalogError → Prop) :
    Except CatalogError α × CompilerState → Prop
  | (.ok a, after) => inv after ∧ good a
  | (.error error, after) => inv after ∧ bad error

/-- From every state with `inv` the computation ends as `Ends` says. -/
def Yields (inv : CompilerState → Prop) (good : α → Prop) (bad : CatalogError → Prop)
    (x : Compile α) : Prop :=
  ∀ state, inv state → Ends inv good bad (x state)

theorem Ends.holds {good : α → Prop} {run : Except CatalogError α × CompilerState}
    (h : Ends inv good bad run) : inv run.2 := by
  obtain ⟨result, after⟩ := run
  cases result with
  | ok a => exact h.1
  | error error => exact h.1

theorem Yields.mono {good : α → Prop} {bad' : CatalogError → Prop} {x : Compile α}
    (h : Yields inv good bad x) (hbad : ∀ error, bad error → bad' error) :
    Yields inv good bad' x := by
  intro state hstate
  have hrun := h state hstate
  cases hresult : x state with
  | mk result after =>
    rw [hresult] at hrun
    cases result with
    | ok a => exact hrun
    | error error => exact ⟨hrun.1, hbad error hrun.2⟩

theorem Yields.pure {good : α → Prop} {a : α} (h : good a) :
    Yields inv good bad (Pure.pure a : Compile α) := fun _ hstate ↦ ⟨hstate, h⟩

theorem Yields.fail {good : α → Prop} {error : CatalogError} (h : bad error) :
    Yields inv good bad (Compile.fail error) := fun _ hstate ↦ ⟨hstate, h⟩

theorem Yields.bind {good : α → Prop} {good' : β → Prop} {x : Compile α} {f : α → Compile β}
    (hx : Yields inv good bad x) (hf : ∀ a, good a → Yields inv good' bad (f a)) :
    Yields inv good' bad (x >>= f) := by
  intro state hstate
  have hrun := hx state hstate
  change Ends inv good' bad (Compile.andThen x f state)
  unfold Compile.andThen
  cases hresult : x state with
  | mk result after =>
    rw [hresult] at hrun
    cases result with
    | ok a => exact hf a hrun.2 after hrun.1
    | error error => exact hrun

end Compile

/-! ## One descriptor -/

namespace Descriptor

variable {ρ : Type} [Regex.Engine ρ] {entries : List (String × Descriptor)}

/-- The node itself is fit to be compiled; its children are nodes of their own. -/
def IsWellFormed (entries : List (String × Descriptor)) : Descriptor → Prop
  | string _ (some source) => ∃ regex, Regex.Engine.compile source = .ok regex
  | tuple items => items ≠ []
  | union alternatives => alternatives ≠ []
  | object fields _ => AreFieldNames (fields.map Prod.fst)
  | orDefault inner value => ∀ s, Denotes entries inner s → ∃ v, s.parse value = .ok v
  | _ => True

theorem Denotes.isWellFormed {d : Descriptor} {s : JsonSchema} (hs : Denotes entries d s) :
    d.IsWellFormed entries := by
  cases hs with
  | pattern _ h => exact ⟨_, h⟩
  | tuple length | union length => exact List.ne_nil_of_length_eq_add_one length
  | object length _ h =>
    have hnames := (objectSchema_eq_ok_iff.1 h).1
    rwa [List.map_fst_zip (by simpa using length.le)] at hnames
  | orDefault inner h =>
    intro t ht
    exact ⟨_, inner.unique ht ▸ h⟩
  | _ => trivial

/-- What compiling a descriptor asks of whoever resolves its references, and of its nodes. -/
structure CanYield (entries : List (String × Descriptor)) (resolve : String → Compile JsonSchema)
    (inv : CompilerState → Prop) (bad : CatalogError → Prop) (d : Descriptor) : Prop where
  resolves : ∀ name ∈ d.references,
    Compile.Yields inv (Denotes entries (.reference name)) bad (resolve name)
  faults : ∀ node : Descriptor, node.IsWithin d → ¬ node.IsWellFormed entries →
    ∀ path fault, bad (.invalidDescriptor path fault)

variable {resolve : String → Compile JsonSchema} {inv : CompilerState → Prop}
  {bad : CatalogError → Prop} {d : Descriptor}

theorem CanYield.child (h : CanYield entries resolve inv bad d) {child : Descriptor}
    (hchild : child ∈ d.children) : CanYield entries resolve inv bad child where
  resolves name hname := h.resolves name (references_subset_of_mem_children hchild hname)
  faults node hnode := h.faults node (hnode.child hchild)

theorem CanYield.fail {α : Type 1} {good : α → Prop} (h : CanYield entries resolve inv bad d)
    (hd : ¬ d.IsWellFormed entries) (path : String) (fault : DescriptorFault) :
    Compile.Yields inv good bad (.fail (.invalidDescriptor path fault) : Compile α) :=
  .fail (h.faults d (.refl d) hd path fault)

mutual

/-- A descriptor compiles to what it denotes, as far as its references do. -/
theorem compile_yields : (d : Descriptor) → (path : String) →
    CanYield entries resolve inv bad d →
    Compile.Yields inv (Denotes entries d) bad (d.compile resolve path)
  | .string coerces none, path, _ => .pure (.string coerces)
  | .string coerces (some source), path, h => by
    unfold compile
    split
    next regex hregex => exact .pure (.pattern coerces hregex)
    next fault hfault =>
      refine h.fail ?_ path (.pattern fault)
      rintro ⟨regex, hregex⟩
      rw [hfault] at hregex
      cases hregex
  | .number coerces, path, _ => .pure (.number coerces)
  | .integer coerces, path, _ => .pure (.integer coerces)
  | .boolean coerces, path, _ => .pure (.boolean coerces)
  | .datetime, path, _ => .pure .datetime
  | .array items, path, h =>
    .bind (compile_yields items _ (h.child (List.mem_singleton_self _)))
      fun _ hs ↦ .pure (.array hs)
  | .set items, path, h =>
    .bind (compile_yields items _ (h.child (List.mem_singleton_self _)))
      fun _ hs ↦ .pure (.set hs)
  | .tuple [], path, h => h.fail (fun hne ↦ hne rfl) path .emptyTuple
  | .tuple (first :: rest), path, h =>
    .bind (compile_yields first _ (h.child List.mem_cons_self)) fun s hs ↦
      .bind (compileItems_yields rest path "items" 1 fun item hitem ↦
        h.child (List.mem_cons_of_mem _ hitem)) fun ss hss ↦
          have hall := List.forall₂_iff_zip.1 (.cons hs hss)
          .pure (.tuple hall.1 fun _ hitem ↦ hall.2 hitem)
  | .object fields denyUnknown, path, h =>
    .bind (compileFields_yields fields path fun child hchild ↦ h.child hchild) fun schemas hall ↦ by
      obtain ⟨hnames, hss⟩ := hall
      have hzip : schemas = (fields.map Prod.fst).zip (schemas.map Prod.snd) := by
        rw [← hnames, ← List.unzip_fst, ← List.unzip_snd, List.zip_unzip]
      split
      next s hs =>
        have hall := List.forall₂_iff_zip.1 hss
        exact .pure (.object (by simpa using hall.1) (fun _ hitem ↦ hall.2 hitem) (hzip ▸ hs))
      next error herror =>
        refine h.fail (fun hnames' ↦ ?_) path (.fields error)
        have hdeclared : AreFieldNames (schemas.map Prod.fst) := by
          rw [hnames]
          exact hnames'
        have hok : objectSchema schemas denyUnknown = .ok _ :=
          objectSchema_eq_ok_iff.2 ⟨hdeclared, rfl⟩
        rw [herror] at hok
        cases hok
  | .indexed values, path, h =>
    .bind (compile_yields values _ (h.child (List.mem_singleton_self _)))
      fun _ hs ↦ .pure (.indexed hs)
  | .optional inner, path, h =>
    .bind (compile_yields inner _ (h.child (List.mem_singleton_self _)))
      fun _ hs ↦ .pure (.optional hs)
  | .nullable inner, path, h =>
    .bind (compile_yields inner _ (h.child (List.mem_singleton_self _)))
      fun _ hs ↦ .pure (.nullable hs)
  | .orDefault inner value, path, h =>
    .bind (compile_yields inner _ (h.child (List.mem_singleton_self _))) fun s hs ↦ by
      split
      next v hv => exact .pure (.orDefault hs hv)
      next failure hfailure =>
        refine h.fail (fun haccepts ↦ ?_) path (.defaultValue failure)
        obtain ⟨v, hv⟩ := haccepts s hs
        rw [hfailure] at hv
        cases hv
  | .union [], path, h => h.fail (fun hne ↦ hne rfl) path .emptyUnion
  | .union (first :: rest), path, h =>
    .bind (compile_yields first _ (h.child List.mem_cons_self)) fun s hs ↦
      .bind (compileItems_yields rest path "any_of" 1 fun item hitem ↦
        h.child (List.mem_cons_of_mem _ hitem)) fun ss hss ↦
          have hall := List.forall₂_iff_zip.1 (.cons hs hss)
          .pure (.union hall.1 fun _ hitem ↦ hall.2 hitem)
  | .reference name, path, h => h.resolves name (List.mem_singleton_self name)

theorem compileItems_yields : (items : List Descriptor) → (path part : String) →
    (index : Nat) → (∀ item ∈ items, CanYield entries resolve inv bad item) →
    Compile.Yields inv (List.Forall₂ (Denotes entries) items) bad
      (compileItems resolve path part index items)
  | [], _, _, _, _ => .pure .nil
  | item :: rest, path, part, index, h =>
    .bind (compile_yields item _ (h item List.mem_cons_self)) fun _ hs ↦
      .bind (compileItems_yields rest path part (index + 1) fun item hitem ↦
        h item (List.mem_cons_of_mem _ hitem)) fun _ hss ↦ .pure (.cons hs hss)

theorem compileFields_yields : (fields : List (String × Descriptor)) → (path : String) →
    (∀ child ∈ fields.map Prod.snd, CanYield entries resolve inv bad child) →
    Compile.Yields inv
      (fun schemas ↦ schemas.map Prod.fst = fields.map Prod.fst ∧
        List.Forall₂ (Denotes entries) (fields.map Prod.snd) (schemas.map Prod.snd)) bad
      (compileFields resolve path fields)
  | [], _, _ => .pure ⟨rfl, .nil⟩
  | (name, item) :: rest, path, h =>
    .bind (compile_yields item _ (h item List.mem_cons_self)) fun _ hs ↦
      .bind (compileFields_yields rest path fun child hchild ↦
        h child (List.mem_cons_of_mem _ hchild)) fun _ hss ↦
          .pure ⟨congrArg (name :: ·) hss.1, .cons hs hss.2⟩

end

end Descriptor

/-! ## The names of a catalog -/

section Names

variable {ρ : Type} [Regex.Engine ρ] {entries : List (String × Descriptor)} {name other : String}

/-- The descriptor of the first name contains a reference to the second one. -/
def Refers (entries : List (String × Descriptor)) (name other : String) : Prop :=
  ∃ d, entries.lookup name = some d ∧ other ∈ d.references

/-- Each name refers to the next, and the last is one of those before it. -/
def IsCyclePath (entries : List (String × Descriptor)) (chain : List String) : Prop :=
  chain.IsChain (Refers entries) ∧ ∃ before name, chain = before ++ [name] ∧ name ∈ before

/-- The reason in the source for an error of its compilation. -/
inductive CatalogError.IsJustified (entries : List (String × Descriptor)) : CatalogError → Prop
  | unknown {name other : String} (h : Refers entries name other)
      (hother : entries.lookup other = none) : IsJustified entries (.unknownSchema other)
  | fault {name path : String} {root node : Descriptor} {fault : DescriptorFault}
      (hroot : entries.lookup name = some root) (hnode : node.IsWithin root)
      (h : ¬ node.IsWellFormed entries) : IsJustified entries (.invalidDescriptor path fault)
  | cycle {chain : List String} (h : IsCyclePath entries chain) :
      IsJustified entries (.referenceCycle chain)

/-- The names in progress are those of `stack`, and what is remembered is what names denote. -/
structure CompilerState.IsSound (entries : List (String × Descriptor)) (stack : List String)
    (state : CompilerState) : Prop where
  inProgress : state.inProgress = stack
  compiled : ∀ entry ∈ state.compiled, Descriptor.Denotes entries (.reference entry.1) entry.2

namespace CompilerState.IsSound

theorem empty : CompilerState.empty.IsSound entries [] :=
  ⟨rfl, fun _ h ↦ absurd h List.not_mem_nil⟩

variable {stack : List String} {state : CompilerState}

theorem enter (h : state.IsSound entries stack) (name : String) :
    (state.enter name).IsSound entries (stack ++ [name]) :=
  ⟨congrArg (· ++ [name]) h.inProgress, h.compiled⟩

theorem leave (h : state.IsSound entries (stack ++ [name])) :
    state.leave.IsSound entries stack where
  inProgress := by simp [CompilerState.leave, h.inProgress]
  compiled := h.compiled

theorem remember {schema : JsonSchema} (h : state.IsSound entries stack)
    (hschema : Descriptor.Denotes entries (.reference name) schema) :
    (state.remember name schema).IsSound entries stack :=
  ⟨h.inProgress, List.forall_mem_cons.2 ⟨hschema, h.compiled⟩⟩

theorem lookup {schema : JsonSchema} (h : state.IsSound entries stack)
    (hschema : state.compiled.lookup name = some schema) :
    Descriptor.Denotes entries (.reference name) schema :=
  h.compiled (name, schema) (mem_of_lookup_eq_some hschema)

end CompilerState.IsSound

theorem compileUnder_yields {d : Descriptor} {stack : List String}
    {resolve : String → Compile JsonSchema} {bad : CatalogError → Prop}
    (hd : entries.lookup name = some d)
    (hfaults : ∀ node : Descriptor, node.IsWithin d → ¬ node.IsWellFormed entries →
      ∀ path fault, bad (.invalidDescriptor path fault))
    (hresolve : ∀ other ∈ d.references,
      Compile.Yields (CompilerState.IsSound entries (stack ++ [name]))
        (Descriptor.Denotes entries (.reference other)) bad (resolve other)) :
    Compile.Yields (CompilerState.IsSound entries stack)
      (Descriptor.Denotes entries (.reference name)) bad (d.compileUnder name resolve) := by
  intro state hstate
  have hrun := Descriptor.compile_yields d name ⟨hresolve, hfaults⟩ _ (hstate.enter name)
  unfold Descriptor.compileUnder
  cases hresult : d.compile resolve name (state.enter name) with
  | mk result after =>
    rw [hresult] at hrun
    cases result with
    | ok schema =>
      have hschema := Descriptor.Denotes.reference hd hrun.2
      exact ⟨hrun.1.leave.remember hschema, hschema⟩
    | error error => exact ⟨hrun.1.leave, hrun.2⟩

/-- Without the entry of one more name the entries are still those of the names not in progress. -/
theorem lookup_entriesBesides {available : List (String × Descriptor)} {stack : List String}
    (h : ∀ other, other ∉ stack → available.lookup other = entries.lookup other)
    (hother : other ∉ stack ++ [name]) :
    (entriesBesides name available).lookup other = entries.lookup other := by
  rw [List.mem_append, List.mem_singleton, not_or] at hother
  rw [entriesBesides, lookup_filter_of_ne hother.2, h other hother.1]

theorem compileNamed_eq (available : List (String × Descriptor)) (name : String)
    (state : CompilerState) :
    compileNamed available name state =
      match state.compiled.lookup name with
      | some schema => (.ok schema, state)
      | none =>
        if state.inProgress.contains name then
          (.error (.referenceCycle (state.inProgress ++ [name])), state)
        else
          match available.lookup name with
          | none => (.error (.unknownSchema name), state)
          | some d => d.compileUnder name (compileNamed (entriesBesides name available)) state := by
  rw [compileNamed]
  cases state.compiled.lookup name with
  | some schema => rfl
  | none =>
    by_cases hmem : state.inProgress.contains name
    · simp only [if_pos hmem]
    · simp only [if_neg hmem]
      split
      next hnone => rw [hnone]
      next d hd => rw [hd]

/-- A name compiles to what a reference to it denotes.  The names in progress lead to it, and
available are the descriptors of the names that are not in progress. -/
theorem compileNamed_yields (available : List (String × Descriptor)) (name : String)
    (stack : List String)
    (havailable : ∀ other, other ∉ stack → available.lookup other = entries.lookup other)
    (hpath : (stack ++ [name]).IsChain (Refers entries))
    (hknown : stack = [] → ∃ d, entries.lookup name = some d) :
    Compile.Yields (CompilerState.IsSound entries stack)
      (Descriptor.Denotes entries (.reference name)) (CatalogError.IsJustified entries)
      (compileNamed available name) := by
  intro state hstate
  rw [compileNamed_eq]
  cases hcompiled : state.compiled.lookup name with
  | some schema => exact ⟨hstate, hstate.lookup hcompiled⟩
  | none =>
    rw [hstate.inProgress]
    by_cases hmem : name ∈ stack
    · rw [if_pos (List.contains_iff_mem.2 hmem)]
      exact ⟨hstate, .cycle ⟨hpath, stack, name, rfl, hmem⟩⟩
    · rw [if_neg (by simpa using hmem)]
      cases hlookup : available.lookup name with
      | none =>
        rw [havailable name hmem] at hlookup
        rcases List.eq_nil_or_concat stack with rfl | ⟨before, last, rfl⟩
        · obtain ⟨d, hd⟩ := hknown rfl
          rw [hlookup] at hd
          cases hd
        · have hlast : Refers entries last name := by
            simpa using (List.isChain_append.1 hpath).2.2 last (by simp) name (by simp)
          exact ⟨hstate, .unknown hlast hlookup⟩
      | some d =>
        have hd : entries.lookup name = some d := (havailable name hmem).symm.trans hlookup
        refine compileUnder_yields hd (fun _ hnode h _ _ ↦ .fault hd hnode h)
          (fun other hother ↦ ?_) state hstate
        refine compileNamed_yields _ other (stack ++ [name])
          (fun _ hthird ↦ lookup_entriesBesides havailable hthird) ?_ (by simp)
        apply hpath.append (List.isChain_singleton other)
        intro last hlast next hnext
        have hname : last = name := by simpa using hlast.symm
        have hnext' : next = other := by simpa using hnext.symm
        rw [hname, hnext']
        exact ⟨d, hd, hother⟩
termination_by available.length
decreasing_by exact length_entriesBesides_lt hlookup

/-- Wherever a name is met, it compiles to what it denotes if it compiles. -/
theorem compileNamed_yields_any {stack : List String}
    (hpath : (stack ++ [name]).IsChain (Refers entries)) :
    Compile.Yields (CompilerState.IsSound entries stack)
      (Descriptor.Denotes entries (.reference name)) (fun _ ↦ True)
      (compileNamed entries name) := by
  cases hd : entries.lookup name with
  | some d =>
    exact (compileNamed_yields entries name stack (fun _ _ ↦ rfl) hpath fun _ ↦ ⟨d, hd⟩).mono
      fun _ _ ↦ trivial
  | none =>
    intro state hstate
    rw [compileNamed_eq]
    cases hcompiled : state.compiled.lookup name with
    | some schema => exact ⟨hstate, hstate.lookup hcompiled⟩
    | none =>
      simp only [hd]
      split <;> exact ⟨hstate, trivial⟩

theorem compileAll_yields (names : List String)
    (hknown : ∀ name ∈ names, ∃ d, entries.lookup name = some d) :
    Compile.Yields (CompilerState.IsSound entries [])
      (fun schemas ↦ schemas.map Prod.fst = names ∧
        ∀ entry ∈ schemas, Descriptor.Denotes entries (.reference entry.1) entry.2)
      (CatalogError.IsJustified entries) (compileAll entries names) := by
  induction names with
  | nil => exact .pure ⟨rfl, fun _ h ↦ absurd h List.not_mem_nil⟩
  | cons name rest ih =>
    obtain ⟨hname, hrest⟩ := List.forall_mem_cons.1 hknown
    refine .bind (compileNamed_yields entries name [] (fun _ _ ↦ rfl)
      (List.isChain_singleton name) fun _ ↦ hname) fun schema hschema ↦ ?_
    refine .bind (ih hrest) fun schemas hschemas ↦ .pure ⟨?_, ?_⟩
    · exact congrArg (name :: ·) hschemas.1
    · exact List.forall_mem_cons.2 ⟨hschema, hschemas.2⟩

end Names

end TwoWaySchema
