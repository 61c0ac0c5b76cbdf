import TwoWaySchema.Proofs.Outcome
import TwoWaySchema.Schema

/-!
# Writers

A container is written when each of its parts is.  A field that a record lacks is left out, and so
is a value that the writer of its field omits.  Alone such a value is null, and in all else the two
sides of a shape's writer agree.
-/

namespace TwoWaySchema

variable {α : Type}

theorem mapError_eq_ok_iff {ε ε' : Type} {x : Except ε α} {f : ε → ε'} {a : α} :
    x.mapError f = .ok a ↔ x = .ok a := by
  cases x <;> simp [Except.mapError]

/-- The first part is written, then the others, and the results are put together. -/
theorem bind_bind_eq_ok_iff {ε β γ : Type} {x : Except ε α} {y : Except ε β} {f : α → β → γ}
    {c : γ} :
    (do let a ← x; let b ← y; .ok (f a b) : Except ε γ) = .ok c ↔
      ∃ a b, x = .ok a ∧ y = .ok b ∧ f a b = c := by
  cases x <;> cases y <;> simp [bind, Except.bind]

namespace Writer

theorem elementsFrom_eq_ok_iff {write : α → Except SerializeError Json} {values : List α}
    {xs : List Json} {i : Nat} :
    elementsFrom write i values = .ok xs ↔
      List.Forall₂ (fun a x ↦ write a = .ok x) values xs := by
  induction values generalizing i xs with
  | nil => simp [elementsFrom, eq_comm]
  | cons a rest ih =>
    rw [elementsFrom, bind_bind_eq_ok_iff, List.forall₂_cons_left_iff]
    simp only [mapError_eq_ok_iff, ih]
    grind

theorem membersOf_eq_ok_iff {write : α → Except SerializeError Json} {entries : List (String × α)}
    {members : List (String × Json)} :
    membersOf write entries = .ok members ↔
      List.Forall₂ (fun entry member ↦ member.1 = entry.1 ∧ write entry.2 = .ok member.2)
        entries members := by
  induction entries generalizing members with
  | nil => simp [membersOf, eq_comm]
  | cons entry rest ih =>
    rw [membersOf, bind_bind_eq_ok_iff, List.forall₂_cons_left_iff]
    simp only [mapError_eq_ok_iff, ih]
    grind

theorem pairsFrom_eq_ok_iff {κ ν : Type} {key : Writer κ} {value : Writer ν}
    {entries : List (κ × ν)} {xs : List Json} {i : Nat} :
    pairsFrom key value i entries = .ok xs ↔
      List.Forall₂ (fun entry x ↦ ∃ k v, x = .array [k, v] ∧ key.serialize entry.1 = .ok k ∧
        value.serialize entry.2 = .ok v) entries xs := by
  induction entries generalizing i xs with
  | nil => simp [pairsFrom, eq_comm]
  | cons entry rest ih =>
    rw [pairsFrom, List.forall₂_cons_left_iff]
    simp only [bind_eq_ok_iff, mapError_eq_ok_iff, ih, Except.ok.injEq]
    grind

end Writer

/-! ## Alone and in a field -/

namespace Writer

variable {β : Type} {w : Writer α}

/-- The two sides differ only where a field leaves a value out, which alone is null. -/
def IsCoherent (w : Writer α) : Prop :=
  ∀ a, w.serialize a = (w.serializeField a).map (·.getD .null)

theorem firstMatching_eq_ok {γ : Type} {expected : Thunk String}
    {first : Except SerializeError γ} {second : Thunk (Except SerializeError γ)} {x : γ}
    (h : firstMatching expected first second = .ok x) : first = .ok x ∨ second.get = .ok x := by
  unfold firstMatching at h
  split at h
  next => exact .inl h
  next =>
    split at h
    next =>
      split at h
      next hsecond => exact .inr (hsecond.trans h)
      next => cases h
    next => cases h

theorem firstMatching_map {γ : Type} (f : γ → β) {expected : Thunk String}
    {first : Except SerializeError γ} {second : Thunk (Except SerializeError γ)}
    {second' : Thunk (Except SerializeError β)} (h : second'.get = second.get.map f) :
    firstMatching expected (first.map f) second' = (firstMatching expected first second).map f := by
  cases first with
  | ok x => rfl
  | error e =>
    simp only [firstMatching, Except.map, h]
    cases second.get <;> split <;> rfl

namespace IsCoherent

theorem plain (serialize : α → Except SerializeError Json) : (plain serialize).IsCoherent := by
  intro a
  change serialize a = ((serialize a).map some).map _
  cases serialize a <;> rfl

theorem optional (h : w.IsCoherent) : w.optional.IsCoherent
  | none => rfl
  | some a => h a

theorem contramap {expected : Thunk String} {backward : β → Option α} (h : w.IsCoherent) :
    (w.contramap expected backward).IsCoherent := by
  intro b
  simp only [Writer.contramap]
  cases backward b with
  | none => rfl
  | some a => exact h a

theorem union {expected : Thunk String} {other : Thunk (Writer α)} (h : w.IsCoherent)
    (hother : other.get.IsCoherent) : (Writer.union expected w other).IsCoherent := by
  intro a
  simp only [Writer.union, h a]
  exact firstMatching_map _ (hother a)

end IsCoherent

end Writer

/-- Every shape writes a value alone as in a field, and null for what a field leaves out. -/
theorem Shape.writer_isCoherent {σ : Type} : {α : Type} → (s : Shape σ α) → s.writer.IsCoherent
  | _, .string _ => .plain _
  | _, .number _ => .plain _
  | _, .integer _ => .plain _
  | _, .boolean _ => .plain _
  | _, .datetime => .plain _
  | _, .regex _ => .plain _
  | _, .optional inner => .optional inner.writer_isCoherent
  | _, .nullable _ => .plain _
  | _, .orDefault inner _ => inner.writer_isCoherent
  | _, .transform inner _ => inner.writer_isCoherent
  | _, .andThen inner _ => inner.writer_isCoherent
  | _, .recover inner _ => inner.writer_isCoherent
  | _, .refine inner _ _ => inner.writer_isCoherent
  | _, .map inner _ _ => .contramap inner.writer_isCoherent
  | _, .tryMap inner _ _ => .contramap inner.writer_isCoherent
  | _, .union first second => .union first.writer_isCoherent second.writer_isCoherent
  | _, .array _ => .plain _
  | _, .set _ _ => .plain _
  | _, .distinct _ _ => .plain _
  | _, .indexed _ => .plain _
  | _, .mapOf _ _ _ => .plain _
  | _, .tuple _ => .plain _
  | _, .sequence _ => .plain _
  | _, .object _ _ => .plain _
  | _, .construct _ _ _ _ => .plain _

/-- What is written for a value alone is what its field holds, and null where that is nothing. -/
theorem Schema.serialize_eq_serializeField {σ α : Type} (s : Schema σ α) (a : α) :
    s.serialize a = (s.serializeField a).map (·.getD .null) :=
  s.shape.writer_isCoherent a

/-- Alone and in a field a value has the same errors.  What a field holds is what is written for
the value alone, and what a field leaves out is a null alone. -/
theorem Schema.serialize_agrees_with_serializeField {σ α : Type} (s : Schema σ α) (a : α) :
    (∀ e, s.serializeField a = .error e ↔ s.serialize a = .error e) ∧
      (∀ w, s.serializeField a = .ok (some w) → s.serialize a = .ok w) ∧
      (s.serializeField a = .ok none → s.serialize a = .ok .null) := by
  rw [s.serialize_eq_serializeField a]
  cases s.serializeField a with
  | error e => exact ⟨fun _ ↦ by simp [Except.map], nofun, nofun⟩
  | ok written =>
    refine ⟨fun _ ↦ by simp [Except.map], ?_, ?_⟩
    · rintro w ⟨⟩
      rfl
    · rintro ⟨⟩
      rfl

/-! ## Mismatches -/

namespace SerializeError

/-- What is wrong with the innermost of the parts that an error names. -/
def cause : SerializeError → SerializeError
  | .field _ source | .key _ source | .index _ source => source.cause
  | error => error

/-- A mismatch is not about a number that JSON has no form for, however deep. -/
theorem cause_ne_nonFinite {error : SerializeError} (h : error.isMismatch = true) (x : Double) :
    error.cause ≠ .nonFinite x := by
  induction error with
  | mismatch | noMatchingBranch => exact nofun
  | nonFinite => cases h
  | field _ _ ih | key _ _ ih | index _ _ ih => exact ih h

end SerializeError

/-- An error of the result says that the value is of another shape. -/
def FailsByMismatch (result : Except SerializeError α) : Prop :=
  ∀ error, result = .error error → error.isMismatch = true

namespace FailsByMismatch

variable {β : Type}

theorem ok {a : α} : FailsByMismatch (.ok a) := fun _ h ↦ by cases h

theorem error {error : SerializeError} (h : error.isMismatch = true) :
    FailsByMismatch (.error error : Except SerializeError α) := by
  rintro _ ⟨⟩
  exact h

theorem bind {result : Except SerializeError α} {f : α → Except SerializeError β}
    (h : FailsByMismatch result) (hf : ∀ a, FailsByMismatch (f a)) :
    FailsByMismatch (result >>= f) := by
  cases result with
  | ok a => exact hf a
  | error e => exact .error (h e rfl)

theorem map {result : Except SerializeError α} (h : FailsByMismatch result) (f : α → β) :
    FailsByMismatch (result.map f) := by
  cases result with
  | ok a => exact .ok
  | error e => exact .error (h e rfl)

theorem of_map {result : Except SerializeError α} {f : α → β}
    (h : FailsByMismatch (result.map f)) : FailsByMismatch result := by
  rintro e rfl
  exact h e rfl

/-- The place of a part in a container has no say in what its error is. -/
theorem mapError {result : Except SerializeError α} {f : SerializeError → SerializeError}
    (h : FailsByMismatch result) (hf : ∀ e, (f e).isMismatch = e.isMismatch) :
    FailsByMismatch (result.mapError f) := by
  cases result with
  | ok a => exact .ok
  | error e => exact .error ((hf e).trans (h e rfl))

theorem firstMatching {expected : Thunk String} {first : Except SerializeError α}
    {second : Thunk (Except SerializeError α)} (hfirst : FailsByMismatch first)
    (hsecond : FailsByMismatch second.get) :
    FailsByMismatch (Writer.firstMatching expected first second) := by
  unfold Writer.firstMatching
  split
  next => exact .ok
  next e =>
    rw [if_pos (hfirst e rfl)]
    split
    next => exact .ok
    next e he => exact .error (by rw [if_pos (hsecond e he)]; rfl)

/-- If the first side fails by mismatches only, it cannot keep the second one from its result. -/
theorem exists_firstMatching {expected : Thunk String} {first : Except SerializeError α}
    {second : Thunk (Except SerializeError α)} (hfirst : FailsByMismatch first)
    (h : (∃ x, first = .ok x) ∨ ∃ x, second.get = .ok x) :
    ∃ x, Writer.firstMatching expected first second = .ok x := by
  unfold Writer.firstMatching
  cases first with
  | ok x => exact ⟨x, rfl⟩
  | error e =>
    obtain ⟨x, hx⟩ := h.resolve_left nofun
    simp only [hfirst e rfl, if_true, hx]
    exact ⟨x, rfl⟩

theorem elementsFrom {write : α → Except SerializeError Json} (h : ∀ a, FailsByMismatch (write a))
    (values : List α) (i : Nat) : FailsByMismatch (Writer.elementsFrom write i values) := by
  induction values generalizing i with
  | nil => exact .ok
  | cons a rest ih =>
    exact .bind ((h a).mapError fun _ ↦ rfl) fun x ↦ .bind (ih (i + 1)) fun xs ↦ .ok

theorem membersOf {write : α → Except SerializeError Json} (h : ∀ a, FailsByMismatch (write a))
    (entries : List (String × α)) : FailsByMismatch (Writer.membersOf write entries) := by
  induction entries with
  | nil => exact .ok
  | cons entry rest ih =>
    exact .bind ((h entry.2).mapError fun _ ↦ rfl) fun x ↦ .bind ih fun xs ↦ .ok

end FailsByMismatch

end TwoWaySchema
