import TwoWaySchema.Proofs.Catalog.CompilerCourse

/-!
# The states of the compiler

A compiler begins with nothing compiled and serves one call after the other, and in serving them it
makes calls of its own.  Whatever is asked of it, and whether it succeeds or fails, its names in
progress are a path of references without repetition and the same at the end of a call as at its
beginning, no schema is forgotten or replaced, and what is remembered under a name is what a fresh
compiler makes of the name.
-/

namespace TwoWaySchema

section AnyEngine

variable {ρ : Type} [Regex.Engine ρ] {entries : List (String × Descriptor)} {name : String}
  {s : CompilerState}

/-! ## Calls -/

/-- What a compiler can be asked for. -/
inductive CompilerCall where
  | descriptor (path : String) (d : Descriptor)
  | named (name : String)

namespace CompilerCall

def run (entries : List (String × Descriptor)) : CompilerCall → Compile JsonSchema
  | descriptor path d => d.compile (compileNamed entries) path
  | named name => compileNamed entries name

def course (entries : List (String × Descriptor)) : CompilerCall → Compile.Course
  | descriptor path d => d.course (compileNamed entries) (courseOfNamed entries) path
  | named name => courseOfNamed entries name

/-- The names that the call follows from where it begins. -/
def starts : CompilerCall → List String
  | descriptor _ d => d.references
  | named name => [name]

/-- The innermost name in progress, if there is one, refers to the names that the call follows.  So
it is with the calls that compiling a name leads to. -/
def Continues (entries : List (String × Descriptor)) (call : CompilerCall) (s : CompilerState) :
    Prop :=
  ∀ last ∈ s.inProgress.getLast?, ∀ name ∈ call.starts, Refers entries last name

theorem continues_of_inProgress_eq_nil (call : CompilerCall) (h : s.inProgress = []) :
    call.Continues entries s := by
  simp [Continues, h]

theorem proceeds (call : CompilerCall) :
    Compile.Proceeds entries call.starts (call.course entries) (call.run entries) := by
  cases call with
  | descriptor path d =>
    refine Descriptor.compile_proceeds path fun name hname ↦ ?_
    refine (compileNamed_proceeds entries name fun _ _ hd ↦ hd).mono ?_
    exact List.cons_subset.2 ⟨hname, List.nil_subset _⟩
  | named name => exact compileNamed_proceeds entries name fun _ _ hd ↦ hd

/-- A new name is compiled by a call for its descriptor, which continues where the name has been
entered, and the way leads through the states of that call. -/
theorem named_of_lookup {d : Descriptor} (hname : name ∉ s.inProgress)
    (hnew : s.compiled.lookup name = none) (hd : entries.lookup name = some d) :
    (descriptor name d).Continues entries (s.enter name) ∧
      (named name).run entries s = d.compileUnder name (compileNamed entries) s ∧
      s.enter name :: (descriptor name d).course entries (s.enter name) <+:
        (named name).course entries s := by
  obtain ⟨hcourse, hrun⟩ := compileNamed_of_lookup hname hnew hd
  refine ⟨fun last hlast other hother ↦ ?_, hrun, ?_⟩
  · obtain rfl : name = last := by simpa [CompilerState.enter] using hlast
    exact ⟨d, hd, hother⟩
  · rw [course, course, hcourse]
    exact List.prefix_append _ _

end CompilerCall

/-! ## Compilers in use -/

namespace CompilerState

/-- The names in progress are a path of references without repetition, none of them is remembered,
and what is remembered under a name is what a fresh compiler makes of the name. -/
structure IsOrderly (entries : List (String × Descriptor)) (s : CompilerState) : Prop
    extends s.HasDistinctNames where
  linked : s.inProgress.IsChain (Refers entries)
  faithful : ∀ entry ∈ s.compiled, ∃ after,
    compileNamed entries entry.1 .empty = (.ok entry.2, after)

/-- A compiler can be in this state: when it is new, and in the course of calls that are made when
no name is in progress. -/
inductive IsReachable (entries : List (String × Descriptor)) : CompilerState → Prop
  | new : IsReachable entries .empty
  | during {s t : CompilerState} (h : IsReachable entries s) (hs : s.inProgress = [])
      (call : CompilerCall) (ht : t ∈ call.course entries s) : IsReachable entries t

namespace IsOrderly

theorem empty : CompilerState.empty.IsOrderly entries where
  inProgress := .nil
  compiled := .nil
  apart _ h := absurd h List.not_mem_nil
  linked := .nil
  faithful _ h := absurd h List.not_mem_nil

theorem isSound (h : s.IsOrderly entries) : s.IsSound entries s.inProgress :=
  ⟨rfl, fun entry hentry ↦ exists_compileNamed_empty_iff.1 (h.faithful entry hentry)⟩

variable {call : CompilerCall}

theorem isSound_run (h : s.IsOrderly entries) (hcall : call.Continues entries s) :
    (call.run entries s).2.IsSound entries s.inProgress := by
  have hresolve : ∀ name ∈ call.starts,
      Compile.Yields (IsSound entries s.inProgress)
        (Descriptor.Denotes entries (.reference name)) (fun _ ↦ True)
        (compileNamed entries name) := by
    intro name hname
    apply compileNamed_yields_any
    refine h.linked.append (List.isChain_singleton name) fun last hlast next hnext ↦ ?_
    obtain rfl : name = next := by simpa using hnext
    exact hcall last hlast name hname
  cases call with
  | descriptor path d =>
    have hcan : Descriptor.CanYield entries (compileNamed entries) (IsSound entries s.inProgress)
        (fun _ ↦ True) d := ⟨hresolve, fun _ _ _ _ _ ↦ trivial⟩
    exact Compile.Ends.holds (Descriptor.compile_yields d path hcan s h.isSound)
  | named name =>
    exact Compile.Ends.holds (hresolve name (List.mem_singleton_self name) s h.isSound)

/-- A call that carries on where the compiler stands keeps it in order throughout. -/
theorem course (h : s.IsOrderly entries) (hcall : call.Continues entries s) :
    ∀ t ∈ call.course entries s, t.IsOrderly entries := by
  intro t ht
  have hrun : IsExcursion entries call.starts s (call.course entries s) (call.run entries s).2 :=
    call.proceeds s
  have hmem : t ∈ s :: call.course entries s := List.mem_cons_of_mem s ht
  have hdistinct : t.HasDistinctNames :=
    hrun.isCourse.forall_mem (fun _ _ hstep ↦ hstep.hasDistinctNames) h.toHasDistinctNames t hmem
  obtain ⟨way, hway, hchain, hhead⟩ := hrun.isOnWay t ht
  refine ⟨hdistinct, ?_, fun entry hentry ↦ ?_⟩
  · rw [hway]
    refine h.linked.append hchain fun last hlast next hnext ↦ ?_
    exact hcall last hlast next (hhead next hnext)
  · -- What is remembered on the way is still remembered at the end.
    have hfinish := hrun.isCourse.isExtendedBy_finish t hmem entry.1 entry.2
      (lookup_of_mem hdistinct.compiled hentry)
    exact exists_compileNamed_empty_iff.2 ((h.isSound_run hcall).lookup hfinish)

end IsOrderly

theorem IsReachable.isOrderly (h : s.IsReachable entries) : s.IsOrderly entries := by
  induction h with
  | new => exact .empty
  | during _ hs call ht ih => exact ih.course (call.continues_of_inProgress_eq_nil hs) _ ht

/-- Wherever a compiler is used its state is in order.  Every call, whether it succeeds or fails,
ends with the names in progress with which it began, and on the way nothing that is remembered is
forgotten or replaced.  A call for names to which the innermost name in progress refers, and any
call when no name is in progress, keeps the state in order throughout. -/
theorem IsReachable.calls_keep_order (h : s.IsReachable entries) (call : CompilerCall) :
    s.IsOrderly entries ∧ (call.run entries s).2.inProgress = s.inProgress ∧
      IsCourse s (call.course entries s) (call.run entries s).2 ∧
      (s :: call.course entries s).Pairwise IsExtendedBy ∧
      (call.Continues entries s → ∀ t ∈ call.course entries s, t.IsOrderly entries) := by
  have hrun : IsExcursion entries call.starts s (call.course entries s) (call.run entries s).2 :=
    call.proceeds s
  exact ⟨h.isOrderly, hrun.inProgress, hrun.isCourse, hrun.isCourse.pairwise, h.isOrderly.course⟩

end CompilerState

end AnyEngine

/-! ## In the middle of a thread -/

namespace CompilerState

/-- The members of a thread are a text and a thread again. -/
def threadMembers : Descriptor :=
  .object [("title", .reference "text"), ("reply", .reference "thread")] false

def threadEntries : List (String × Descriptor) :=
  [("text", .string false none), ("thread", threadMembers)]

/-- Where the thread has been entered. -/
def threadState : CompilerState :=
  CompilerState.empty.enter "thread"

/-- The call that compiles the thread from there. -/
def threadCall : CompilerCall :=
  .descriptor "thread" threadMembers

/-- Where the title has been compiled. -/
def titledState : CompilerState :=
  threadState.remember "text" (Descriptor.stringSchema false none)

theorem thread_run : threadCall.run threadEntries threadState =
    (.error (.referenceCycle ["thread", "thread"]), titledState) := by
  have htitle : compileNamed threadEntries "text" threadState =
      (.ok (Descriptor.stringSchema false none), titledState) := by
    rw [(compileNamed_of_lookup (by decide) rfl rfl).2]
    rfl
  have hreply : compileNamed threadEntries "thread" titledState =
      (.error (.referenceCycle ["thread", "thread"]), titledState) := by
    rw [compileNamed_eq]
    rfl
  simp only [threadCall, CompilerCall.run, threadMembers, Descriptor.compile,
    Descriptor.compileFields, bind, Compile.andThen, htitle, hreply]

/-- The thread fails in the middle of it, for it is its own reply, and what has been compiled by
then is remembered. -/
theorem threadCall_keeps_order :
    threadState.IsReachable threadEntries ∧ threadCall.Continues threadEntries threadState ∧
      threadCall.run threadEntries threadState =
        (.error (.referenceCycle ["thread", "thread"]), titledState) ∧
      threadState.IsOrderly threadEntries ∧ titledState.inProgress = threadState.inProgress ∧
      IsCourse threadState (threadCall.course threadEntries threadState) titledState ∧
      (threadState :: threadCall.course threadEntries threadState).Pairwise IsExtendedBy ∧
      ∀ t ∈ threadCall.course threadEntries threadState, t.IsOrderly threadEntries := by
  obtain ⟨hcontinues, -, hcourse⟩ : threadCall.Continues threadEntries threadState ∧
      (CompilerCall.named "thread").run threadEntries .empty =
        threadMembers.compileUnder "thread" (compileNamed threadEntries) .empty ∧
      threadState :: threadCall.course threadEntries threadState <+:
        (CompilerCall.named "thread").course threadEntries .empty :=
    CompilerCall.named_of_lookup List.not_mem_nil rfl rfl
  have hreachable : threadState.IsReachable threadEntries :=
    .during .new rfl (.named "thread") (hcourse.subset List.mem_cons_self)
  have hkept := hreachable.calls_keep_order threadCall
  rw [thread_run] at hkept
  obtain ⟨horderly, hrestored, hsteps, hgrows, hthroughout⟩ := hkept
  exact ⟨hreachable, hcontinues, thread_run, horderly, hrestored, hsteps, hgrows,
    hthroughout hcontinues⟩

end CompilerState

end TwoWaySchema
