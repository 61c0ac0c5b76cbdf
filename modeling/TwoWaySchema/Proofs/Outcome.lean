import Mathlib.Data.List.Forall2
import TwoWaySchema.Shape.Parts

/-!
# Outcomes

A failure fits the input that it is about when it names an error, and when it is the failure of a
missing value exactly where there is no value or only a null.  Errors of the parts of a value have
paths, so a container's failure never passes for a missing value.  Outcomes are collected to the
list of their values when each of them is one.
-/

namespace TwoWaySchema

/-- There is no value, or only an explicit null. -/
def IsVacant (input : Option Json) : Prop :=
  input = none ∨ input = some .null

theorem not_isVacant_some {x : Json} : ¬ IsVacant (some x) ↔ x ≠ .null := by
  simp [IsVacant]

theorem requirePresent_of_isVacant {input : Option Json} (h : IsVacant input) :
    requirePresent input = .error .missing := by
  rcases h with rfl | rfl <;> rfl

theorem requirePresent_of_ne_null {x : Json} (h : x ≠ .null) :
    requirePresent (some x) = .ok x := by
  unfold requirePresent
  split
  next heq => cases heq
  next heq => exact absurd (Option.some.inj heq) h
  next heq => rw [Option.some.inj heq]

theorem isVacant_or_eq_some (input : Option Json) :
    IsVacant input ∨ ∃ x, x ≠ .null ∧ input = some x := by
  cases input with
  | none => exact .inl (.inl rfl)
  | some x =>
    by_cases hx : x = .null
    · exact .inl (.inr (congrArg some hx))
    · exact .inr ⟨x, hx, rfl⟩

/-- What requires a value and gives a result was given a value. -/
theorem exists_of_requirePresent_bind {α : Type} {f : Json → Outcome α} {input : Option Json}
    {a : α} (h : requirePresent input >>= f = .ok a) :
    ∃ x, x ≠ .null ∧ input = some x ∧ f x = .ok a := by
  rcases isVacant_or_eq_some input with hvacant | ⟨x, hx, rfl⟩
  · rw [requirePresent_of_isVacant hvacant] at h
    cases h
  · rw [requirePresent_of_ne_null hx] at h
    exact ⟨x, hx, rfl, h⟩

section Except

variable {ε α β γ : Type} {x : Except ε α} {b : β}

theorem map_eq_ok_iff {f : α → β} : x.map f = .ok b ↔ ∃ a, x = .ok a ∧ f a = b := by
  cases x <;> simp [Except.map]

theorem map_eq_error_iff {f : α → β} {e : ε} : x.map f = .error e ↔ x = .error e := by
  cases x <;> simp [Except.map]

theorem bind_eq_ok_iff {f : α → Except ε β} : x >>= f = .ok b ↔ ∃ a, x = .ok a ∧ f a = .ok b := by
  cases x <;> simp [bind, Except.bind]

theorem bind_bind_ok {f : α → Except ε β} {g : β → γ} :
    (x >>= fun a ↦ f a >>= fun b ↦ .ok (g b)) = (x >>= f).map g := by
  cases x with
  | error _ => rfl
  | ok a =>
    change (f a >>= fun b ↦ .ok (g b)) = (f a).map g
    cases f a <;> rfl

theorem isOk_iff : x.isOk = true ↔ ∃ a, x = .ok a := by
  cases x <;> simp [Except.isOk, Except.toBool]

end Except

/-! ## Failures -/

/-- The failure names an error, and it says that the value is missing if and only if there is none
or only a null. -/
structure Failure.Fits (failure : Failure) (input : Option Json) : Prop where
  ne_nil : failure.errors ≠ []
  isMissing_iff : failure.isMissing = true ↔ IsVacant input

namespace Failure.Fits

variable {failure : Failure} {input : Option Json}

theorem missing (h : IsVacant input) : Failure.missing.Fits input :=
  ⟨List.cons_ne_nil _ _, iff_of_true rfl h⟩

theorem single {kind : ErrorKind} {message : String} (hkind : kind ≠ .missingValue)
    (h : ¬ IsVacant input) : (Failure.single kind message).Fits input :=
  ⟨List.cons_ne_nil _ _, iff_of_false (by simp [Failure.isMissing, Failure.single, hkind]) h⟩

/-- A failure with an error below the value itself is not that of a missing value. -/
theorem of_nested (hne : failure.errors ≠ []) (hpath : ∀ entry ∈ failure.errors, entry.path ≠ [])
    (h : ¬ IsVacant input) : failure.Fits input := by
  refine ⟨hne, iff_of_false (fun hmissing ↦ ?_) h⟩
  obtain ⟨entry, hentry⟩ := List.exists_mem_of_ne_nil _ hne
  have hroot : entry.isRoot = true := by
    have hall := (Bool.and_eq_true_iff.1 hmissing).2
    exact (Bool.and_eq_true_iff.1 (List.all_eq_true.1 hall entry hentry)).2
  exact hpath entry hentry (List.isEmpty_iff.1 hroot)

/-- What is wrong with a part of a value is not that the value is missing. -/
theorem within (hne : failure.errors ≠ []) (h : ¬ IsVacant input) (segment : PathSegment) :
    (failure.within segment).Fits input := by
  refine .of_nested (by simpa [Failure.within] using hne) (fun entry hentry ↦ ?_) h
  obtain ⟨inner, -, rfl⟩ := List.mem_map.1 hentry
  exact List.cons_ne_nil _ _

/-- Of two failures about the same input the one of a union is about that input too. -/
theorem exhausted {description : Thunk String} {first second : Failure} (hfirst : first.Fits input)
    (hsecond : second.Fits input) : (Parts.exhausted description first second).Fits input := by
  unfold Parts.exhausted
  split
  next hmissing =>
    exact .missing (hfirst.isMissing_iff.1 (Bool.and_eq_true_iff.1 hmissing).1)
  next hmissing =>
    have hpresent : ¬ IsVacant input := fun h ↦ hmissing <| Bool.and_eq_true_iff.2
      ⟨hfirst.isMissing_iff.2 h, hsecond.isMissing_iff.2 h⟩
    exact ⟨List.cons_ne_nil _ _, iff_of_false (by simp [Failure.isMissing]) hpresent⟩

end Failure.Fits

namespace Outcome

variable {α β : Type} {input : Option Json}

/-- A failed outcome fits the input. -/
def Fits (outcome : Outcome α) (input : Option Json) : Prop :=
  ∀ failure, outcome = .error failure → failure.Fits input

theorem Fits.ok {a : α} : Fits (.ok a) input := fun _ h ↦ by cases h

theorem Fits.error {failure : Failure} (h : failure.Fits input) :
    Fits (.error failure : Outcome α) input := by
  rintro _ ⟨⟩
  exact h

theorem Fits.map {outcome : Outcome α} (h : outcome.Fits input) (f : α → β) :
    Outcome.Fits (outcome.map f) input := by
  cases outcome with
  | ok a => exact .ok
  | error failure => exact .error (h failure rfl)

theorem Fits.bind {outcome : Outcome α} {f : α → Outcome β} (h : outcome.Fits input)
    (hf : ∀ a, outcome = .ok a → (f a).Fits input) : Outcome.Fits (outcome >>= f) input := by
  cases outcome with
  | ok a => exact hf a rfl
  | error failure => exact .error (h failure rfl)

theorem Fits.single {kind : ErrorKind} {message : String} (hkind : kind ≠ .missingValue)
    (h : ¬ IsVacant input) : Fits (.error (.single kind message) : Outcome α) input :=
  .error (.single hkind h)

/-- What requires a value fits its input if the rest fits every value that is not null. -/
theorem Fits.requirePresent {f : Json → Outcome β}
    (hf : ∀ x, x ≠ .null → (f x).Fits (some x)) :
    Outcome.Fits (requirePresent input >>= f) input := by
  rcases isVacant_or_eq_some input with h | ⟨x, hx, rfl⟩
  · rw [requirePresent_of_isVacant h]
    exact .error (.missing h)
  · rw [requirePresent_of_ne_null hx]
    exact hf x hx

/-! ## Failures of scalars -/

/-- A failed outcome names one error, which is about the value itself. -/
def FailsWhole (outcome : Outcome α) : Prop :=
  ∀ failure, outcome = .error failure → ∃ kind message, failure = .single kind message

namespace FailsWhole

theorem ok {a : α} : FailsWhole (.ok a) := fun _ h ↦ by cases h

theorem single {kind : ErrorKind} {message : String} :
    FailsWhole (.error (.single kind message) : Outcome α) := by
  rintro _ ⟨⟩
  exact ⟨kind, message, rfl⟩

theorem map {outcome : Outcome α} (h : outcome.FailsWhole) (f : α → β) :
    Outcome.FailsWhole (outcome.map f) :=
  fun failure hfailure ↦ h failure (map_eq_error_iff.1 hfailure)

theorem bind {outcome : Outcome α} {f : α → Outcome β} (h : outcome.FailsWhole)
    (hf : ∀ a, (f a).FailsWhole) : Outcome.FailsWhole (outcome >>= f) := by
  cases outcome with
  | ok a => exact hf a
  | error failure =>
    rintro _ ⟨⟩
    exact h failure rfl

theorem requirePresent {f : Json → Outcome β} (hf : ∀ x, (f x).FailsWhole) :
    Outcome.FailsWhole (requirePresent input >>= f) := by
  refine .bind ?_ hf
  rcases isVacant_or_eq_some input with h | ⟨x, hx, rfl⟩
  · rw [requirePresent_of_isVacant h]
    exact .single
  · rw [requirePresent_of_ne_null hx]
    exact .ok

end FailsWhole

/-! ## Collecting -/

theorem errors_within {segment : PathSegment} {outcome : Outcome α} :
    (outcome.within segment).errors = outcome.errors.map (ErrorEntry.within segment) := by
  cases outcome <;> rfl

theorem errors_map {outcome : Outcome α} {f : α → β} :
    Outcome.errors (outcome.map f) = outcome.errors := by
  cases outcome <;> rfl

theorem errors_collect {outcomes : List (Outcome α)} :
    (collect outcomes).errors = outcomes.flatMap errors := by
  unfold collect
  cases outcomes.flatMap errors <;> rfl

theorem collect_cons_ok {a : α} {rest : List (Outcome α)} :
    collect (.ok a :: rest) = (collect rest).map (a :: ·) := by
  simp only [collect, List.flatMap_cons, errors, List.nil_append]
  cases rest.flatMap errors <;> rfl

theorem path_ne_nil_of_mem_errors_within {segment : PathSegment} {outcome : Outcome α}
    {entry : ErrorEntry} (h : entry ∈ (outcome.within segment).errors) : entry.path ≠ [] := by
  rw [errors_within] at h
  obtain ⟨inner, -, rfl⟩ := List.mem_map.1 h
  exact List.cons_ne_nil _ _

theorem within_eq_ok_iff {segment : PathSegment} {outcome : Outcome α} {a : α} :
    outcome.within segment = .ok a ↔ outcome = .ok a := by
  cases outcome <;> simp [within]

/-- A failed outcome names an error. -/
def IsExplained (outcome : Outcome α) : Prop :=
  ∀ failure, outcome = .error failure → failure.errors ≠ []

theorem isExplained_ok {a : α} : IsExplained (.ok a) := fun _ h ↦ by cases h

theorem isExplained_error_iff {failure : Failure} :
    IsExplained (.error failure : Outcome α) ↔ failure.errors ≠ [] :=
  ⟨fun h ↦ h failure rfl, fun h _ hfailure ↦ Except.error.inj hfailure ▸ h⟩

theorem Fits.isExplained {outcome : Outcome α} (h : outcome.Fits input) : outcome.IsExplained :=
  fun failure hfailure ↦ (h failure hfailure).ne_nil

theorem IsExplained.map {outcome : Outcome α} (h : outcome.IsExplained) (f : α → β) :
    Outcome.IsExplained (outcome.map f) := by
  cases outcome with
  | ok a => exact fun _ h ↦ by cases h
  | error failure =>
    rintro _ ⟨⟩
    exact h failure rfl

theorem IsExplained.bind {outcome : Outcome α} {f : α → Outcome β} (h : outcome.IsExplained)
    (hf : ∀ a, (f a).IsExplained) : Outcome.IsExplained (outcome >>= f) := by
  cases outcome with
  | ok a => exact hf a
  | error failure =>
    rintro _ ⟨⟩
    exact h failure rfl

theorem IsExplained.within {outcome : Outcome α} (h : outcome.IsExplained)
    (segment : PathSegment) : (outcome.within segment).IsExplained := by
  cases outcome with
  | ok a => exact fun _ h ↦ by cases h
  | error failure =>
    rintro _ ⟨⟩
    simpa [Failure.within] using h failure rfl

theorem IsExplained.exists_eq_ok {outcome : Outcome α} (h : outcome.IsExplained)
    (hnil : outcome.errors = []) : ∃ a, outcome = .ok a := by
  cases outcome with
  | ok a => exact ⟨a, rfl⟩
  | error failure => exact absurd hnil (h failure rfl)

/-- Outcomes without errors are collected to their values, however many of them have none. -/
theorem collect_eq_ok_iff_errors {outcomes : List (Outcome α)} {values : List α} :
    collect outcomes = .ok values ↔
      outcomes.flatMap errors = [] ∧ outcomes.filterMap Except.toOption = values := by
  unfold collect
  cases outcomes.flatMap errors <;> simp

theorem collect_eq_ok_iff {outcomes : List (Outcome α)} {values : List α}
    (h : ∀ outcome ∈ outcomes, outcome.IsExplained) :
    collect outcomes = .ok values ↔
      List.Forall₂ (fun outcome value ↦ outcome = .ok value) outcomes values := by
  rw [collect_eq_ok_iff_errors]
  induction outcomes generalizing values with
  | nil => simp [eq_comm]
  | cons outcome rest ih =>
    obtain ⟨houtcome, hrest⟩ := List.forall_mem_cons.1 h
    cases outcome with
    | ok a =>
      cases values with
      | nil => simp [Except.toOption]
      | cons value values =>
        simp only [List.forall₂_cons, List.filterMap_cons, List.flatMap_cons, Except.toOption,
          errors, List.nil_append, List.cons.injEq, Except.ok.injEq]
        rw [and_left_comm]
        exact and_congr_right fun _ ↦ ih hrest
    | error failure =>
      have hne := houtcome failure rfl
      cases values <;> simp [errors, hne]

theorem collect_map_ok (values : List α) : collect (values.map .ok) = .ok values := by
  induction values with
  | nil => rfl
  | cons a rest ih =>
    rw [List.map_cons, collect_cons_ok, ih]
    rfl

/-- Mapped values are collected where the values are, and errors stay as they are. -/
theorem collect_map (f : α → β) (outcomes : List (Outcome α)) :
    collect (outcomes.map (Except.map f)) = (collect outcomes).map (List.map f) := by
  have herrors : (outcomes.map (Except.map f)).flatMap errors = outcomes.flatMap errors := by
    rw [List.flatMap_map]
    exact congrArg (List.flatMap · outcomes) (funext fun _ ↦ errors_map)
  have hvalues : (outcomes.map (Except.map f)).filterMap Except.toOption =
      (outcomes.filterMap Except.toOption).map f := by
    rw [List.filterMap_map, List.map_filterMap]
    refine List.filterMap_congr fun outcome _ ↦ ?_
    cases outcome <;> rfl
  unfold collect
  rw [herrors, hvalues]
  cases outcomes.flatMap errors <;> rfl

/-- The errors of a collection are errors of its outcomes, and there is one. -/
theorem collect_eq_error {outcomes : List (Outcome α)} {failure : Failure}
    (h : collect outcomes = .error failure) :
    failure.errors ≠ [] ∧ ∀ entry ∈ failure.errors, ∃ outcome ∈ outcomes,
      entry ∈ outcome.errors := by
  unfold collect at h
  simp only at h
  split at h
  · cases h
  next herrors =>
    cases h
    refine ⟨fun hnil ↦ herrors (List.isEmpty_iff.2 hnil), fun entry hentry ↦ ?_⟩
    exact List.mem_flatMap.1 hentry

/-- What is collected from the parts of a value fits it. -/
theorem Fits.collect {outcomes : List (Outcome α)} (h : ¬ IsVacant input)
    (hpath : ∀ outcome ∈ outcomes, ∀ entry ∈ outcome.errors, entry.path ≠ []) :
    (collect outcomes).Fits input := by
  intro failure hfailure
  obtain ⟨hne, hentries⟩ := collect_eq_error hfailure
  refine .of_nested hne (fun entry hentry ↦ ?_) h
  obtain ⟨outcome, houtcome, hmem⟩ := hentries entry hentry
  exact hpath outcome houtcome entry hmem

end Outcome

end TwoWaySchema
