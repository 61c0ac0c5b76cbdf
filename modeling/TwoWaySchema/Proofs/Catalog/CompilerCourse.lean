import TwoWaySchema.Proofs.Catalog.Acceptance

/-!
# Courses of compilation

The compiler changes its state in steps: it enters a name, leaves the innermost name, or remembers
a schema under a new name.  The course of a computation is the list of the states that these steps
lead to.  Whether it succeeds or fails, the course of compiling a descriptor or a name ends with the
names in progress with which it began, and on the way they are those names and then a path of
references.  It is the same whichever descriptors are available for names in progress.
-/

namespace TwoWaySchema

variable {ρ : Type} [Regex.Engine ρ] {entries : List (String × Descriptor)} {name : String}
  {names : List String} {s t u : CompilerState} {states : List CompilerState}

/-! ## Steps -/

namespace CompilerState

/-- What is remembered in the first state is remembered in the second one. -/
def IsExtendedBy (s t : CompilerState) : Prop :=
  ∀ name schema, s.compiled.lookup name = some schema → t.compiled.lookup name = some schema

/-- No name is in progress twice or remembered twice, and none is both. -/
structure HasDistinctNames (s : CompilerState) : Prop where
  inProgress : s.inProgress.Nodup
  compiled : (s.compiled.map Prod.fst).Nodup
  apart : ∀ name ∈ s.inProgress, s.compiled.lookup name = none

/-- One change of the state. -/
inductive Step : CompilerState → CompilerState → Prop
  | enter {s : CompilerState} {name : String} (hname : name ∉ s.inProgress)
      (hnew : s.compiled.lookup name = none) : Step s (s.enter name)
  | leave (s : CompilerState) : Step s s.leave
  | remember {s : CompilerState} {name : String} (schema : JsonSchema)
      (hname : name ∉ s.inProgress) (hnew : s.compiled.lookup name = none) :
      Step s (s.remember name schema)

theorem lookup_remember_of_ne {other : String} {schema : JsonSchema} (h : other ≠ name) :
    (s.remember name schema).compiled.lookup other = s.compiled.lookup other :=
  lookup_cons_of_ne h

namespace Step

theorem isExtendedBy (h : Step s t) : s.IsExtendedBy t := by
  cases h with
  | enter | leave => exact fun _ _ hschema ↦ hschema
  | @remember new _ _ hnew =>
    intro other schema hschema
    have hne : other ≠ new := by
      rintro rfl
      cases hnew.symm.trans hschema
    rwa [lookup_remember_of_ne hne]

theorem hasDistinctNames (h : Step s t) (hs : s.HasDistinctNames) : t.HasDistinctNames := by
  cases h with
  | enter hname hnew =>
    refine ⟨?_, hs.compiled, ?_⟩
    · refine List.nodup_append.2 ⟨hs.inProgress, List.nodup_singleton _, ?_⟩
      rintro other hother new hnew rfl
      exact hname (List.mem_singleton.1 hnew ▸ hother)
    · exact List.forall_mem_append.2 ⟨hs.apart, List.forall_mem_singleton.2 hnew⟩
  | leave =>
    have hsub := List.dropLast_sublist s.inProgress
    exact ⟨hs.inProgress.sublist hsub, hs.compiled,
      fun other hother ↦ hs.apart other (hsub.subset hother)⟩
  | @remember new _ hname hnew =>
    refine ⟨hs.inProgress, ?_, fun other hother ↦ ?_⟩
    · exact List.nodup_cons.2 ⟨lookup_eq_none_iff_notMem.1 hnew, hs.compiled⟩
    · have hne : other ≠ new := fun heq ↦ hname (heq ▸ hother)
      rw [lookup_remember_of_ne hne]
      exact hs.apart other hother

/-- A name that is in progress does not come to be remembered. -/
theorem lookup_eq_none (h : Step s t) (hname : name ∈ s.inProgress)
    (hnew : s.compiled.lookup name = none) : t.compiled.lookup name = none := by
  cases h with
  | enter | leave => exact hnew
  | @remember new _ hother =>
    have hne : name ≠ new := fun heq ↦ hother (heq ▸ hname)
    rwa [lookup_remember_of_ne hne]

end Step

/-! ## Courses -/

/-- The states lead from the first state to the last one, each by one step from the one before. -/
inductive IsCourse : CompilerState → List CompilerState → CompilerState → Prop
  | nil (s : CompilerState) : IsCourse s [] s
  | cons {s t u : CompilerState} {states : List CompilerState} (h : Step s t)
      (rest : IsCourse t states u) : IsCourse s (t :: states) u

namespace IsCourse

theorem append {states' : List CompilerState} (h : IsCourse s states t)
    (h' : IsCourse t states' u) : IsCourse s (states ++ states') u := by
  induction h with
  | nil => exact h'
  | cons hstep _ ih => exact .cons hstep (ih h')

/-- What every step keeps holds throughout. -/
theorem forall_mem {p : CompilerState → Prop} (h : IsCourse s states t)
    (hstep : ∀ u v, Step u v → p u → p v) (hs : p s) : ∀ u ∈ s :: states, p u := by
  induction h with
  | nil => exact List.forall_mem_singleton.2 hs
  | cons hfirst _ ih => exact List.forall_mem_cons.2 ⟨hs, ih (hstep _ _ hfirst hs)⟩

/-- Each state remembers what the states before it do. -/
theorem pairwise (h : IsCourse s states t) : (s :: states).Pairwise IsExtendedBy := by
  induction h with
  | nil => exact List.pairwise_singleton _ _
  | @cons s t _ states hstep rest ih =>
    refine List.pairwise_cons.2 ⟨?_, ih⟩
    refine rest.forall_mem (fun u v huv hu name schema hschema ↦ ?_) hstep.isExtendedBy
    exact huv.isExtendedBy name schema (hu name schema hschema)

theorem isExtendedBy_finish (h : IsCourse s states t) : ∀ u ∈ s :: states, u.IsExtendedBy t := by
  induction h with
  | nil => exact List.forall_mem_singleton.2 fun _ _ hschema ↦ hschema
  | cons hstep rest ih =>
    refine List.forall_mem_cons.2 ⟨fun name schema hschema ↦ ?_, ih⟩
    exact ih _ List.mem_cons_self name schema (hstep.isExtendedBy name schema hschema)

theorem lookup_eq_none (h : IsCourse s states t) (hname : ∀ u ∈ s :: states, name ∈ u.inProgress)
    (hnew : s.compiled.lookup name = none) : t.compiled.lookup name = none := by
  induction h with
  | nil => exact hnew
  | cons hstep _ ih =>
    obtain ⟨hs, hstates⟩ := List.forall_mem_cons.1 hname
    exact ih hstates (hstep.lookup_eq_none hs hnew)

end IsCourse

/-- The names in progress are those of `stack` and then a path of references, which begins with one
of `names`. -/
def IsOnWay (entries : List (String × Descriptor)) (stack names : List String)
    (s : CompilerState) : Prop :=
  ∃ way, s.inProgress = stack ++ way ∧ way.IsChain (Refers entries) ∧
    ∀ name ∈ way.head?, name ∈ names

theorem isOnWay_of_inProgress {stack : List String} (h : s.inProgress = stack) :
    s.IsOnWay entries stack names :=
  ⟨[], by rw [h, List.append_nil], .nil, by simp⟩

/-- The names on the way under a name are on the way to it. -/
theorem IsOnWay.under {stack : List String} {d : Descriptor} (hd : entries.lookup name = some d)
    (h : s.IsOnWay entries (stack ++ [name]) d.references) : s.IsOnWay entries stack [name] := by
  obtain ⟨way, hway, hchain, hhead⟩ := h
  refine ⟨name :: way, ?_, ?_, ?_⟩
  · rw [hway, List.append_assoc, List.singleton_append]
  · exact List.isChain_cons.2 ⟨fun next hnext ↦ ⟨d, hd, hhead next hnext⟩, hchain⟩
  · simp

/-- A course that ends with the names in progress that it began with, and on which they are
followed by paths of references from `names` only. -/
structure IsExcursion (entries : List (String × Descriptor)) (names : List String)
    (s : CompilerState) (states : List CompilerState) (t : CompilerState) : Prop where
  isCourse : IsCourse s states t
  isOnWay : ∀ u ∈ states, u.IsOnWay entries s.inProgress names
  inProgress : t.inProgress = s.inProgress

namespace IsExcursion

theorem nil (s : CompilerState) : IsExcursion entries names s [] s :=
  ⟨.nil s, fun _ h ↦ absurd h List.not_mem_nil, rfl⟩

theorem append {states' : List CompilerState} (h : IsExcursion entries names s states t)
    (h' : IsExcursion entries names t states' u) :
    IsExcursion entries names s (states ++ states') u where
  isCourse := h.isCourse.append h'.isCourse
  isOnWay := List.forall_mem_append.2 ⟨h.isOnWay, h.inProgress ▸ h'.isOnWay⟩
  inProgress := h'.inProgress.trans h.inProgress

theorem mono {names' : List String} (h : IsExcursion entries names s states t)
    (hnames : names ⊆ names') : IsExcursion entries names' s states t where
  isCourse := h.isCourse
  isOnWay u hu := by
    obtain ⟨way, hway, hchain, hhead⟩ := h.isOnWay u hu
    exact ⟨way, hway, hchain, fun name hname ↦ hnames (hhead name hname)⟩
  inProgress := h.inProgress

theorem remember {schema : JsonSchema} (hname : name ∉ s.inProgress)
    (hnew : s.compiled.lookup name = none) :
    IsExcursion entries names s [s.remember name schema] (s.remember name schema) where
  isCourse := .cons (.remember schema hname hnew) (.nil _)
  isOnWay := List.forall_mem_singleton.2 (isOnWay_of_inProgress rfl)
  inProgress := rfl

/-- From entering a name to leaving it.  The name is not remembered on the way. -/
theorem under {d : Descriptor} (hname : name ∉ s.inProgress)
    (hnew : s.compiled.lookup name = none) (hd : entries.lookup name = some d)
    (h : IsExcursion entries d.references (s.enter name) states t) :
    IsExcursion entries [name] s (s.enter name :: (states ++ [t.leave])) t.leave ∧
      t.leave.compiled.lookup name = none := by
  have hleave : t.leave.inProgress = s.inProgress := by
    simp [CompilerState.leave, h.inProgress, CompilerState.enter]
  have hway : ∀ u ∈ s.enter name :: states, u.IsOnWay entries (s.inProgress ++ [name])
      d.references := List.forall_mem_cons.2 ⟨isOnWay_of_inProgress rfl, h.isOnWay⟩
  refine ⟨⟨?_, ?_, hleave⟩, ?_⟩
  · exact .cons (.enter hname hnew) (h.isCourse.append (.cons (.leave t) (.nil _)))
  · rw [← List.cons_append]
    refine List.forall_mem_append.2 ⟨fun u hu ↦ (hway u hu).under hd, ?_⟩
    exact List.forall_mem_singleton.2 (isOnWay_of_inProgress hleave)
  · refine h.isCourse.lookup_eq_none (fun u hu ↦ ?_) hnew
    obtain ⟨way, hu, -⟩ := hway u hu
    simp [hu]

end IsExcursion

end CompilerState

/-! ## Computations -/

namespace Compile

/-- The states that a computation goes through after the one in which it begins. -/
abbrev Course : Type 1 :=
  CompilerState → List CompilerState

variable {α β : Type 1} {course course' next : Course}

/-- The states of one computation and, if it succeeds, of what comes after it. -/
def courseThen (x : Compile α) (course next : Course) : Course := fun state ↦
  course state ++
    match x state with
    | (.ok _, after) => next after
    | (.error _, _) => []

theorem courseThen_nil (x : Compile α) : courseThen x course (fun _ ↦ []) = course := by
  funext state
  unfold courseThen
  split <;> exact List.append_nil _

/-- A relation between computations with their courses that is kept when computations are put
together. -/
structure IsCompositional
    (rel : {α : Type 1} → Course → Compile α → Course → Compile α → Prop) : Prop where
  pure {α : Type 1} (a : α) : rel (fun _ ↦ []) (Pure.pure a) (fun _ ↦ []) (Pure.pure a)
  fail {α : Type 1} (error : CatalogError) :
    rel (fun _ ↦ []) (Compile.fail error : Compile α) (fun _ ↦ []) (Compile.fail error)
  bind {α β : Type 1} {course course' next next' : Course} {x x' : Compile α}
    {f f' : α → Compile β} (hx : rel course x course' x') (hf : ∀ a, rel next (f a) next' (f' a)) :
    rel (courseThen x course next) (x >>= f) (courseThen x' course' next') (x' >>= f')

/-- What leaves the state as it is adds nothing to a course. -/
theorem IsCompositional.finish
    {rel : {α : Type 1} → Course → Compile α → Course → Compile α → Prop} (h : IsCompositional rel)
    {x x' : Compile α} {f f' : α → Compile β} (hx : rel course x course' x')
    (hf : ∀ a, rel (fun _ ↦ []) (f a) (fun _ ↦ []) (f' a)) :
    rel course (x >>= f) course' (x' >>= f') := by
  have hbind := h.bind hx hf
  rwa [courseThen_nil, courseThen_nil] at hbind

/-- From every state the course of the computation is an excursion to where it ends. -/
def Proceeds (entries : List (String × Descriptor)) (names : List String) (course : Course)
    (x : Compile α) : Prop :=
  ∀ state, CompilerState.IsExcursion entries names state (course state) (x state).2

theorem Proceeds.mono {names' : List String} {x : Compile α}
    (h : Proceeds entries names course x) (hnames : names ⊆ names') :
    Proceeds entries names' course x :=
  fun state ↦ (h state).mono hnames

theorem Proceeds.bind {x : Compile α} {f : α → Compile β} (hx : Proceeds entries names course x)
    (hf : ∀ a, Proceeds entries names next (f a)) :
    Proceeds entries names (courseThen x course next) (x >>= f) := by
  intro state
  have hrun := hx state
  change CompilerState.IsExcursion _ _ _ _ (Compile.andThen x f state).2
  unfold Compile.andThen courseThen
  cases hresult : x state with
  | mk result after =>
    rw [hresult] at hrun
    cases result with
    | ok a => exact hrun.append (hf a after)
    | error error => exact hrun.append (.nil after)

theorem proceeds_isCompositional :
    IsCompositional fun course x _ _ ↦ Proceeds entries names course x where
  pure _ state := .nil state
  fail _ state := .nil state
  bind hx hf := hx.bind hf

/-- From every state with `inv` both computations have the same course and the same result, and end
in a state with `inv`. -/
def Agrees (inv : CompilerState → Prop) (course : Course) (x : Compile α) (course' : Course)
    (x' : Compile α) : Prop :=
  ∀ state, inv state → course state = course' state ∧ x state = x' state ∧ inv (x state).2

theorem Agrees.bind {inv : CompilerState → Prop} {next' : Course} {x x' : Compile α}
    {f f' : α → Compile β} (hx : Agrees inv course x course' x')
    (hf : ∀ a, Agrees inv next (f a) next' (f' a)) :
    Agrees inv (courseThen x course next) (x >>= f) (courseThen x' course' next') (x' >>= f') := by
  intro state hstate
  obtain ⟨hcourse, hrun, hafter⟩ := hx state hstate
  change _ ∧ Compile.andThen x f state = Compile.andThen x' f' state ∧
    inv (Compile.andThen x f state).2
  unfold Compile.andThen courseThen
  rw [← hrun, ← hcourse]
  cases hresult : x state with
  | mk result after =>
    rw [hresult] at hafter
    cases result with
    | ok a =>
      obtain ⟨hnext, hend⟩ := hf a after hafter
      exact ⟨congrArg (course state ++ ·) hnext, hend⟩
    | error error => exact ⟨rfl, rfl, hafter⟩

theorem agrees_isCompositional {inv : CompilerState → Prop} : IsCompositional (Agrees inv) where
  pure _ _ hstate := ⟨rfl, rfl, hstate⟩
  fail _ _ hstate := ⟨rfl, rfl, hstate⟩
  bind hx hf := hx.bind hf

end Compile

/-! ## Descriptors -/

namespace Descriptor

section Course

variable (resolve resolve' : String → Compile JsonSchema)
  (follow follow' : String → Compile.Course)

mutual

/-- The course of compiling a descriptor; `follow` gives the courses of its references. -/
def course (path : String) : Descriptor → Compile.Course
  | array inner | set inner => course (path ++ ".items") inner
  | indexed inner => course (path ++ ".values") inner
  | optional inner | nullable inner | orDefault inner _ => course (path ++ ".inner") inner
  | tuple items => courseOfItems path "items" 0 items
  | union items => courseOfItems path "any_of" 0 items
  | object fields _ => courseOfFields path fields
  | reference name => follow name
  | string _ _ | number _ | integer _ | boolean _ | datetime => fun _ ↦ []

def courseOfItems (path part : String) (index : Nat) : List Descriptor → Compile.Course
  | [] => fun _ ↦ []
  | item :: rest =>
    (compile resolve (indexedPath path part index) item).courseThen
      (course (indexedPath path part index) item) (courseOfItems path part (index + 1) rest)

def courseOfFields (path : String) : List (String × Descriptor) → Compile.Course
  | [] => fun _ ↦ []
  | (name, item) :: rest =>
    (compile resolve (path ++ "." ++ name) item).courseThen
      (course (path ++ "." ++ name) item) (courseOfFields path rest)

end

/-- The course of compiling a descriptor under its name. -/
def courseUnder (name : String) (d : Descriptor) : Compile.Course := fun state ↦
  state.enter name :: (d.course resolve follow name (state.enter name) ++
    match d.compile resolve name (state.enter name) with
    | (.ok schema, after) => [after.leave, after.leave.remember name schema]
    | (.error _, after) => [after.leave])

variable {rel : {α : Type 1} → Compile.Course → Compile α → Compile.Course → Compile α → Prop}

mutual

/-- Descriptors are compiled in ways that are related if their references are. -/
theorem compile_related (hrel : Compile.IsCompositional rel) : (d : Descriptor) →
    (path : String) →
    (∀ name ∈ d.references, rel (follow name) (resolve name) (follow' name) (resolve' name)) →
    rel (d.course resolve follow path) (d.compile resolve path)
      (d.course resolve' follow' path) (d.compile resolve' path)
  | .string _ none, _, _ | .number _, _, _ | .integer _, _, _ | .boolean _, _, _
  | .datetime, _, _ => hrel.pure _
  | .string _ (some _), _, _ => by
    unfold compile course
    split
    · exact hrel.pure _
    · exact hrel.fail _
  | .array inner, _, h | .set inner, _, h | .indexed inner, _, h | .optional inner, _, h
  | .nullable inner, _, h =>
    hrel.finish (compile_related hrel inner _ h) fun _ ↦ hrel.pure _
  | .tuple [], _, _ | .union [], _, _ => hrel.fail _
  | .tuple (first :: rest), path, h | .union (first :: rest), path, h =>
    hrel.bind
      (compile_related hrel first _ fun name hname ↦ h name (List.mem_append_left _ hname))
      fun _ ↦ hrel.finish (compileItems_related hrel rest path _ 1 fun name hname ↦
        h name (List.mem_append_right _ hname)) fun _ ↦ hrel.pure _
  | .object fields _, path, h =>
    hrel.finish (compileFields_related hrel fields path h) fun _ ↦ by
      split
      · exact hrel.pure _
      · exact hrel.fail _
  | .orDefault inner value, _, h =>
    hrel.finish (compile_related hrel inner _ h) fun _ ↦ by
      split
      · exact hrel.pure _
      · exact hrel.fail _
  | .reference name, _, h => h name (List.mem_singleton_self name)

theorem compileItems_related (hrel : Compile.IsCompositional rel) : (items : List Descriptor) →
    (path part : String) → (index : Nat) →
    (∀ name ∈ referencesOfItems items,
      rel (follow name) (resolve name) (follow' name) (resolve' name)) →
    rel (courseOfItems resolve follow path part index items)
      (compileItems resolve path part index items)
      (courseOfItems resolve' follow' path part index items)
      (compileItems resolve' path part index items)
  | [], _, _, _, _ => hrel.pure _
  | item :: rest, path, part, index, h =>
    hrel.bind
      (compile_related hrel item _ fun name hname ↦ h name (List.mem_append_left _ hname))
      fun _ ↦ hrel.finish (compileItems_related hrel rest path part (index + 1) fun name hname ↦
        h name (List.mem_append_right _ hname)) fun _ ↦ hrel.pure _

theorem compileFields_related (hrel : Compile.IsCompositional rel) :
    (fields : List (String × Descriptor)) → (path : String) →
    (∀ name ∈ referencesOfFields fields,
      rel (follow name) (resolve name) (follow' name) (resolve' name)) →
    rel (courseOfFields resolve follow path fields) (compileFields resolve path fields)
      (courseOfFields resolve' follow' path fields) (compileFields resolve' path fields)
  | [], _, _ => hrel.pure _
  | (_, item) :: rest, path, h =>
    hrel.bind
      (compile_related hrel item _ fun name hname ↦ h name (List.mem_append_left _ hname))
      fun _ ↦ hrel.finish (compileFields_related hrel rest path fun name hname ↦
        h name (List.mem_append_right _ hname)) fun _ ↦ hrel.pure _

end

end Course

variable {resolve resolve' : String → Compile JsonSchema}
  {follow follow' : String → Compile.Course} {d : Descriptor}

theorem compile_proceeds (path : String)
    (h : ∀ name ∈ d.references, Compile.Proceeds entries names (follow name) (resolve name)) :
    Compile.Proceeds entries names (d.course resolve follow path) (d.compile resolve path) :=
  compile_related resolve resolve follow follow Compile.proceeds_isCompositional d path h

/-- A descriptor that is compiled under its name goes into the name and back out of it. -/
theorem isExcursion_courseUnder (hname : name ∉ s.inProgress)
    (hnew : s.compiled.lookup name = none) (hd : entries.lookup name = some d)
    (h : ∀ other ∈ d.references,
      Compile.Proceeds entries d.references (follow other) (resolve other)) :
    CompilerState.IsExcursion entries [name] s (d.courseUnder resolve follow name s)
      (d.compileUnder name resolve s).2 := by
  have hrun := compile_proceeds name h (s.enter name)
  unfold courseUnder compileUnder
  cases hresult : d.compile resolve name (s.enter name) with
  | mk result after =>
    rw [hresult] at hrun
    obtain ⟨hunder, hnew'⟩ := hrun.under hname hnew hd
    cases result with
    | ok schema =>
      have hname' : name ∉ after.leave.inProgress := hunder.inProgress ▸ hname
      have hlast : CompilerState.IsExcursion entries [name] after.leave
          [after.leave.remember name schema] (after.leave.remember name schema) :=
        .remember hname' hnew'
      simpa using hunder.append hlast
    | error error => exact hunder

/-- Only how references are resolved when the name is the innermost one matters to it. -/
theorem compileUnder_congr
    (h : ∀ other, Compile.Agrees (fun t ↦ t.inProgress = s.inProgress ++ [name])
      (follow other) (resolve other) (follow' other) (resolve' other)) :
    d.courseUnder resolve follow name s = d.courseUnder resolve' follow' name s ∧
      d.compileUnder name resolve s = d.compileUnder name resolve' s := by
  obtain ⟨hcourse, hrun, -⟩ := compile_related resolve resolve' follow follow'
    Compile.agrees_isCompositional d name (fun other _ ↦ h other) (s.enter name) rfl
  unfold courseUnder compileUnder
  rw [hcourse, hrun]
  exact ⟨rfl, rfl⟩

end Descriptor

/-! ## Names -/

/-- The course of compiling a name. -/
def courseOfNamed (available : List (String × Descriptor)) (name : String) : Compile.Course :=
  fun state ↦
    match state.compiled.lookup name with
    | some _ => []
    | none =>
      if state.inProgress.contains name then
        []
      else
        match _h : available.lookup name with
        | none => []
        | some d =>
          d.courseUnder (compileNamed (entriesBesides name available))
            (courseOfNamed (entriesBesides name available)) name state
termination_by available.length
decreasing_by exact length_entriesBesides_lt _h

/-- Nothing happens in a name that is remembered, in progress or unknown. -/
theorem courseOfNamed_eq (available : List (String × Descriptor)) (name : String)
    (state : CompilerState) :
    courseOfNamed available name state =
      match state.compiled.lookup name with
      | some _ => []
      | none =>
        if state.inProgress.contains name then
          []
        else
          match available.lookup name with
          | none => []
          | some d =>
            d.courseUnder (compileNamed (entriesBesides name available))
              (courseOfNamed (entriesBesides name available)) name state := by
  rw [courseOfNamed]
  cases state.compiled.lookup name with
  | some schema => rfl
  | none =>
    by_cases hmem : state.inProgress.contains name
    · simp only [if_pos hmem]
    · simp only [if_neg hmem]
      split
      next hnone => rw [hnone]
      next d hd => rw [hd]

/-- What is available without a name was available before. -/
theorem lookup_of_lookup_entriesBesides {available : List (String × Descriptor)} {other : String}
    {d : Descriptor} (h : (entriesBesides name available).lookup other = some d) :
    available.lookup other = some d := by
  have hne : other ≠ name := by
    have hmem := mem_of_lookup_eq_some h
    rw [entriesBesides, List.mem_filter] at hmem
    simpa using hmem.2
  rwa [entriesBesides, lookup_filter_of_ne hne] at h

/-- The way through a name leads back to the names in progress with which it began. -/
theorem compileNamed_proceeds (available : List (String × Descriptor)) (name : String)
    (havailable : ∀ other d, available.lookup other = some d → entries.lookup other = some d) :
    Compile.Proceeds entries [name] (courseOfNamed available name)
      (compileNamed available name) := by
  intro state
  rw [courseOfNamed_eq, compileNamed_eq]
  cases hnew : state.compiled.lookup name with
  | some schema => exact .nil state
  | none =>
    by_cases hmem : name ∈ state.inProgress
    · rw [if_pos (List.contains_iff_mem.2 hmem), if_pos (List.contains_iff_mem.2 hmem)]
      exact .nil state
    · rw [if_neg (by simpa using hmem), if_neg (by simpa using hmem)]
      cases hlookup : available.lookup name with
      | none => exact .nil state
      | some d =>
        refine Descriptor.isExcursion_courseUnder hmem hnew (havailable name d hlookup) ?_
        intro other hother
        refine (compileNamed_proceeds (entriesBesides name available) other ?_).mono ?_
        · exact fun third e he ↦ havailable third e (lookup_of_lookup_entriesBesides he)
        · exact List.cons_subset.2 ⟨hother, List.nil_subset _⟩
termination_by available.length
decreasing_by exact length_entriesBesides_lt hlookup

/-- Resolvers that differ in what is available for names in progress only agree. -/
theorem compileNamed_congr (available available' : List (String × Descriptor)) (name : String)
    (stack : List String)
    (h : ∀ other, other ∉ stack → available.lookup other = available'.lookup other) :
    Compile.Agrees (fun t ↦ t.inProgress = stack) (courseOfNamed available name)
      (compileNamed available name) (courseOfNamed available' name)
      (compileNamed available' name) := by
  intro state hstate
  have hproceeds : Compile.Proceeds available [name] (courseOfNamed available name)
      (compileNamed available name) := compileNamed_proceeds available name fun _ _ hd ↦ hd
  refine and_assoc.1 ⟨?_, (hproceeds state).inProgress.trans hstate⟩
  rw [courseOfNamed_eq, courseOfNamed_eq available', compileNamed_eq, compileNamed_eq available']
  cases state.compiled.lookup name with
  | some schema => exact ⟨rfl, rfl⟩
  | none =>
    by_cases hmem : name ∈ stack
    · simp [hstate, hmem]
    · simp only [hstate, List.contains_iff_mem, if_neg hmem]
      rw [← h name hmem]
      cases hlookup : available.lookup name with
      | none => exact ⟨rfl, rfl⟩
      | some d =>
        refine Descriptor.compileUnder_congr fun other ↦ ?_
        rw [hstate]
        refine compileNamed_congr (entriesBesides name available) (entriesBesides name available')
          other (stack ++ [name]) fun third hthird ↦ ?_
        rw [lookup_entriesBesides h hthird, lookup_entriesBesides (fun _ _ ↦ rfl) hthird]
termination_by available.length
decreasing_by exact length_entriesBesides_lt hlookup

/-- A new name is compiled as its descriptor, with all entries still available to its references. -/
theorem compileNamed_of_lookup {d : Descriptor} (hname : name ∉ s.inProgress)
    (hnew : s.compiled.lookup name = none) (hd : entries.lookup name = some d) :
    courseOfNamed entries name s =
        d.courseUnder (compileNamed entries) (courseOfNamed entries) name s ∧
      compileNamed entries name s = d.compileUnder name (compileNamed entries) s := by
  rw [courseOfNamed_eq, compileNamed_eq]
  simp only [hnew, List.contains_iff_mem, if_neg hname, hd]
  refine Descriptor.compileUnder_congr fun other ↦ ?_
  exact compileNamed_congr (entriesBesides name entries) entries other (s.inProgress ++ [name])
    fun third hthird ↦ lookup_entriesBesides (fun _ _ ↦ rfl) hthird

end TwoWaySchema
